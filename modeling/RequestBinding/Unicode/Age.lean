import RequestBinding.Unicode.Runs

/-!
# Ages of characters

The age of a code point is the version of Unicode that first assigned it. Two versions are in use:
texts follow version 17.0, while patterns follow version 16.0, to which the characters that came
later are unassigned.

## Main definitions

* `versions` - the versions up to 16.0 in order
* `ageSet?` - the code points of a version and of those before it
* `laterSet` - the code points that came with version 17.0
-/

namespace RequestBinding.Unicode

/-- The run-length text of the ages. The codes `A` to `Z` and `Aa` stand for the versions up to 16.0
in order, `Ab` stands for 17.0, and `Na` for unassigned code points. -/
def ageText : String :=
  "A502D4A30D8FGD18G3H11I14A89D5G2A47DA10D5G17A70D9FG8H5G3A2DF13J4A2J2Na2AI3APNa4A7NaANaA20Na" ++
  "A44JA7DF2ADADADADA18E2FG5H4DA12DA66DA12DA41JD2F2D4A53F2A2F2A2F2IA28D2A8H2A2I6F16I4J16K2L2P" ++
  "8NaA38Na2A7TA39TADNa2P2MNaB17HB13A10IA9BH3Na8A27Na4TA5Na11G4MPJ5HAG9J5AOXHALA26J5A19D3G3H6" ++
  "LA14F2A72D2A5DA15DA30G2A10D5GD14NaD30G3D27Na2G3H30J18D49FNa14I59Na2T3K46Na2K15NaL28Na2LNaS" ++
  "11Na5X31AbX2Na5AaX8MPM11P6Q2XR8W10X11TR15QM27PKA3GA53L2A18KLA5KL2A25J2L5PK2I2HI2PA3NaA8Na2" ++
  "A2Na2A22NaA7NaANa3A4Na2AGA7Na2A2Na2A3HNa8ANa4A2NaA5Na2A21KS2TNa2GAGNaA6Na4A2Na2A22NaA7NaA2" ++
  "NaA2NaA2Na2ANaA5Na4A2Na2A3Na3JNa7A4NaANa7A15JTNa10A3NaA7GANaA3NaA22NaA7NaA2NaA5Na2A10NaA3N" ++
  "aA3Na2ANa15AG3Na2A10MGNa7QS6NaA3NaA8Na2A2Na2A22NaA7NaA2NaGA4Na2A8JNa2A2Na2A3Na7WA2Na4A2NaA" ++
  "3J2Na2A11GL6Na10A2NaA6Na3A3NaA4Na3A2NaANaA2Na3A2Na3A3Na3A8HA3Na4A5Na3A3NaA4Na2JNa6ANa14HA1" ++
  "2G8Na5PA3TA8NaA3NaA23NaA10PA5Na2XJA7NaA3NaA4Na7A2NaJ2QNaAbXNa2A2J2Na2A10Na7UJ8RPA2TA8NaA3N" ++
  "aA23NaA10NaA5Na2G2A7NaA3NaA4Na7A2Na5AbXANaA2I2Na2A10NaI2YNa12SPA2WA8NaA3NaA23LA16LS2JA6JNa" ++
  "A3NaA4LRNa4R3AR7QA2J2Na2A10J6R3J7NaWD2NaD18Na3D24NaD9NaDNa2D7Na3DNa4D6NaDNaD8Na6P10Na2D3Na" ++
  "12A58Na4A29Na37A2NaANaUA2UANaUAU6A4UA7UA3NaANaAU2A2UA13UA3Na2A5NaANaA6YNaA10Na2A2M2Na32B72" ++
  "NaB33DJ2Na4B27L4B6DBNaB21D3B7DBD3NaD15NaJDH2J3K4L2Na37D34JD5JD2JD7J3D4J6D26J64K4J2A38NaMNa" ++
  "5MNa2A39F2H2AHM3A90K5A68K5A82K6D7HD63HDNaD4Na2D7NaDNaD4Na2D39HDNaD4Na2D31HDNaD4Na2D7NaDNaD" ++
  "4Na2D7HD7NaD23HD31HDNaD4Na2D7HD39HD19Na2L2H2D28Na3H26Na6D85QNa2Q6Na2KD630K9D29Na3D81P8Na7F" ++
  "13XF7XNa9XF23Na9F20Na12F13NaF3NaF2Na12D93GNa2D10Na6G10Na6D15XD10Na6D88TNa7D42JNa5K70Na10G2" ++
  "9P2NaG12Na4G12Na4GNa3G42Na2G5Na11H42K2Na4H26Na6H10KNa3H2G32H28Na2H2K63NaK29Na2K11Na6K10Na6" ++
  "K14Na2P15W2X14Ab15Na2Ab12Na20I76XNaAa2I45X2AaJ43M3J12M6L52Na8L4J56Na3J15Na3J51R9Aa2Na5T43N" ++
  "a2T3M8Na8K35M4SP2UNa5G108H88I7J28P15S4XRLKI2A155BJ4A90J6A22Na2A6Na2A38Na2A6Na2A8NaANaANaAN" ++
  "aA31Na2A53NaA15NaA14Na2A6NaA19Na2A3NaA9NaA47DA23FD6F5G2H2FH7F5JNaO4A7FNa2A27NaH5L8Na3A11BC" ++
  "D3F2H4K3LNP3QSXAbNa14A18D2F7HI4JNa15A57D2GHF15HI2JK3A48DIJ4KQ2Na4A91D9F12A242F14ADA121DFD3" ++
  "0F52G2H11I12KL11P7R4SA37D2Aa3Na22A11Na21A139F20GA150F10A80D8F8A20G2F2HDA86D2F12H2F10G8H11J" ++
  "K2G2H16IJ10K3J4K10LK19LKL4K24PA4LA4L2A28LA35LALA4L3AKA7L2A7F14A31L3A24LA14LH7I4MJML2F28J4F" ++
  "16D256F512G14H6I7J5I4J41P3J5K5P26Na2P32AbWP34T3P12UP8ST25Q4T15UH47XH47XI13J3KJ3I4J6K2H107K" ++
  "7M2Na5H45NaMNa5MNa2H54M2Na7HLNa14LH23Na9H7NaH7NaH7NaH7NaH7NaH7NaH7NaH7NaJ32H24J4H2J19KM10P" ++
  "7R2S5T5UW3X11Na34D26NaD89Na12D214Na26D12Z4A56D3F3DANaA84F2Na2A6F2A94FNa5A40JSTNaA94NaA16D2" ++
  "4L3W5H16J20Aa2Na9ZF16A29G2NaA36K12GF15A28G2HA50F15A12G4A47VA119G4A99G2A31GD6582W10G64A2090" ++
  "2H22J8K8MQ9S21T5W13X3D1165Na3D18F2D16FD12FD3FDNa9K48J300Na20J32L2J18M8J28P6QMK88Na8H23I4J5" ++
  "I2J107L2QL2M2P12L10MP3RTP2Q6T2U6X2U5W4Aa3Ab2X2AbXAbX5Aa3Na20AbX3W2PM2LJ5H44WNa3K10Na6I56Na" ++
  "8J69RNa8J12Na6K28Q2T2J84Na11JK29Na3K78NaK11Na4K2P31NaJ55Na9J14Na2J10Na2J4K28P4K67Na24K5M23" ++
  "Na10L6Na2L6Na2L6Na9L7NaL7NaP48Q4P2U2W4Na4Q80K46Na2K10Na6B11172Na12K23Na4K49Na4B2048A6702M2" ++
  "F59K3Na2H106Na38A7Na12A5Na5DA25NaA5NaANaA2NaA2NaA108L16XAb16A365X16A64Ab2A54Ab7XE32A12FGX2" ++
  "F16H10Na6A4J3P7Q2A21F2G2A10NaA19NaA4Na4A3FANaA135Na2ANaA94F2A94Na3A6Na2A6Na2A6Na2A3Na3A7Na" ++
  "A7Na10D3CA3G12NaG26NaG19NaG2NaG15Na2G14Na34G123Na5G3Na4G45Na3G9H75P2R2NaJ12WNa3PNa47J46Na1" ++
  "30J29Na3J49Na15P28Na4E31PE4Na9S3E27Na5P43Na5G30NaGH36Na4H14Na42E38G2E38G80Na2G10Na6R36Na4R" ++
  "36Na4P40Na8P52Na11PX11NaX15NaX7NaX2NaX11NaX15NaX7NaX2Na3Aa52Na12P311Na9P22Na10P8Na24X6NaX4" ++
  "2NaX9Na69G6Na2GNaG44NaG2Na3GNa2GK22NaK9P63Na8P9Na48Q19NaQ2Na5Q5I26K2Na3IJ26Na5JAb26Na38M56" ++
  "Na4Q2M2Q16Na2Q46H4NaH2Na5H8NaH3NaH27T2Na2H3Na4H9TNa7H9Na7K32P32Na32P39Na4P12Na9K54Na3K29Na" ++
  "2K27Na5K8P18Na7P4Na12P7Na80K73Na55Q51Na13Q51Na7Q6T40Na8T10Na6Aa38Na3Aa29Na8Aa2Na208K31NaW4" ++
  "2NaW3Na2W2Na16Aa3Ab3Na8Ab9Na33Ab2AaY3T40Na8T42Na22X26Na38W28Na20U23Na9L78Na4L30X6Na9PK66XN" ++
  "a10TNa2M25Na7M10Na6M53NaM14T3WNa8P39Na9M73Q4PW2M10PQ5NaP20Na11P18NaP43RY3Na62Q7NaQNaQ4NaQ1" ++
  "5NaQ11Na6P59Na5P10Na6QP3NaP8Na2P2Na2P22NaP7NaP2NaP5NaTP9Na2P2Na2P3Na2QNa6PNa5P7Na2P7Na3P5N" ++
  "a11Aa10NaAaNa2AaNaAa38NaAa10NaAaNa2AaNaAa4NaAa10NaAa2Na8Aa2Na29R90WRNaRTUW2Na30P72Na8P10Na" ++
  "166P54Na2P18Q20Na34P69Na11P10Na6R13Na19M56UXNa6M10Na6Aa20Na28Q26TNa2Q15Na4Q16X7Na185T60Na1" ++
  "00P83Na12PW7Na2WNa2W8NaW2NaW30NaW2Na2W12Na9W10Na70U8Na2U46Na2U11Na27S72Na8S52U2S23TS5Na13X" ++
  "16P57Na7Y10Na86Ab8Na88Aa34Na14Aa10Na6R9NaR45NaR14Na10R29Na3R32Na2R22NaR14Na73S7NaS2NaS44Na" ++
  "3SNaS2NaS9Na8S10Na6T6NaT2NaT37NaT2NaT6Na7T10Na6Ab44Na4Ab10Na246T25Na7Y17NaY41Na3Y28AaNa85W" ++
  "Na15U50Na13UI879P42QNa102I99P12NaI4PNa11Q196Na2636X99Na13K1071YU9Y29Na10Aa3995Na5Q583Na684" ++
  "1Aa58Na1734L569Na7P31NaP10Na4P2X79NaX10Na6P30Na2P6Na10P70Na10P10NaP7NaP21Na5P19Na432Aa58Na" ++
  "198T91Na5Ab25Na2Ab25Na44M69U6Na4UM47U9Na7M17Na64RSU2WNa11W2Ab5Na9R6125T5U6Ab8R755W483Na41A" ++
  "aW9Ab22Na97Ab115Na8701X4NaX7NaX2NaL2S285X4Na15YNa29U3Na2YNa14U4Na8S396Na2308P107Na5P13Na3P" ++
  "9Na7P10Na2P8Na3932Aa250Ab3Na3Aa436Na6Ab23Na15Ab17Na15X46Na2X23Na9X116Na60E246Na10E39Na2JE1" ++
  "80Q11X2Na21H70Na122Y20Na12T20Na12G87Na9I18T7Na135E85NaE71NaE2Na2ENa2E2Na2E4NaE12NaENaE4GE2" ++
  "NaE65NaE4Na2E8NaE7NaE28NaE4NaE5NaENa3E7NaE338H2Na2E290I2Na2E50Q652Na15Q5NaQ15Na1104X31Na6Y" ++
  "6Na213R7NaR17Na2R7NaR2NaR5Na5Y62Na33YNa112U45Na3U14Na2U10Na4U2Na320X31Na17U58Na5UNa464Y42N" ++
  "a214Aa43Na4AaNa192Ab31NaAb22Na8Ab2Na224X7NaX4NaX2NaX15NaP197Na2P16Na41R75UNa4R10Na4R2Na785" ++
  "T68Na76U61Na194M4NaM27NaM2NaMNa2MNaM10NaM4NaMNaMNa6MNa4MNaMNaMNaM3NaM2NaMNa2MNaMNaMNaMNaMN" ++
  "aM2NaMNa2M4NaM7NaM4NaM4NaMNaM10NaM17Na5M3NaM5NaM17Na52M2Na270J44Na4J100Na12L15Na2L14PNaL15" ++
  "NaL15P22Na10K11P2W3K31TLKL11KLKL2KL3KL3K5L8KL7KL10M2UW3L9KLK2L2KL10K4L2KL10R18WNa56L26KL2N" ++
  "a13K34L9RNa4K9Na7L2Na14S6Na154L33P12Q3L6PL70PQ2L20P12L37PL5P4Q5P12L17P7Q8L63PLPL182PL4P2QL" ++
  "62P2M4P7Q5L24P18RP41RP86L5ML16ML3MLMLMLML3ML6M2L4MLM2L4ML12P2Q2L11P48L70P10QR2S2UW2AbNa3YX" ++
  "3P13Na3P4R3S2TUW2Na3L116Y3Ab4Y5P85T4YNa6U12Na4XNa15P12Na4P56Na8P10Na6P40Na8P30Na2W2Aa10Na4" ++
  "Aa2Na14Ab9Na39S12WU3Q9R6SR8S8RS2R12UR12ST3R15S13T5UWT4W2XTUT4Q5R13S6T11W2U6W3U2T10U6QT2U8W" ++
  "XU3S23T25U84Ab4Na8T14Na2U4WY3U3X2Na3U3W4Y2AaAbNa3AbAaU6W19X4Y3W7X4Y3AaYW3X3AaNaAbNa4AbY2W7" ++
  "X3Y2AaNa2AaX8YAaAbNa4AbX7Y2Na7W147NaW55Aa37W10AbNa1027B2E42711W7X2Na32K4149X4YAb6L222Na2Q5" ++
  "762Ab12Na2S7473Na15Z622Na2466E542Na1504B2W4939Na5Y4192Ab4298Na52100B2Na65534B2Na65534B2Na6" ++
  "5534B2Na65534B2Na65534B2Na65534B2Na65534B2Na65534B2Na65534B2Na65534B2NaENa30E96Na128G240Na" ++
  "65038B131074"

/-- The runs of code points of one age. -/
def ageRuns : List Run := Run.readAll ageText

/-- The versions up to 16.0 in order, with their codes. -/
def versions : List (String × String) :=
  [("1.1", "A"), ("2.0", "B"), ("2.1", "C"), ("3.0", "D"), ("3.1", "E"), ("3.2", "F"),
   ("4.0", "G"), ("4.1", "H"), ("5.0", "I"), ("5.1", "J"), ("5.2", "K"), ("6.0", "L"),
   ("6.1", "M"), ("6.2", "N"), ("6.3", "O"), ("7.0", "P"), ("8.0", "Q"), ("9.0", "R"),
   ("10.0", "S"), ("11.0", "T"), ("12.0", "U"), ("12.1", "V"), ("13.0", "W"), ("14.0", "X"),
   ("15.0", "Y"), ("15.1", "Z"), ("16.0", "Aa")]

/-- The code points that a version or one before it assigned; none for an unknown version. A version
is written like `6.1` or like `v61`. -/
def ageSet? (name : String) : Option RangeSet :=
  let named := fun (v : String × String) =>
    v.1 == name || 'v' :: v.1.toList.filter (· != '.') == name.toList
  if versions.any named then
    let earlier := versions.takeWhile fun v => !named v
    let codes := (versions.take (earlier.length + 1)).map Prod.snd
    some (Run.select ageRuns codes.contains)
  else none

/-- The code points that came with version 17.0. -/
def laterSet : RangeSet := Run.select ageRuns (· == "Ab")

end RequestBinding.Unicode
