import RequestBinding.Unicode.Age

/-!
# General categories of characters

Every code point has one of thirty general categories. The table is that of Unicode 17.0; in
version 16.0 the later characters are unassigned, and U+0295 is a lowercase letter.

## Main definitions

* `Category` - the thirty general categories
* `category` - the general category of a character
* `categorySet` - the code points of some categories in version 16.0
* `Category.named?` - the categories that a name stands for
-/

namespace RequestBinding.Unicode

/-- The general categories, named by their two-letter abbreviations. -/
inductive Category where
  | lu | ll | lt | lm | lo
  | mn | mc | me | nd | nl
  | no | pc | pd | ps | pe
  | pi | pf | po | sm | sc
  | sk | so | zs | zl | zp
  | cc | cf | cs | co | cn
  deriving DecidableEq, Repr

/-- The category with a two-letter abbreviation. -/
def Category.ofCode : String → Category
  | "Lu" => .lu
  | "Ll" => .ll
  | "Lt" => .lt
  | "Lm" => .lm
  | "Lo" => .lo
  | "Mn" => .mn
  | "Mc" => .mc
  | "Me" => .me
  | "Nd" => .nd
  | "Nl" => .nl
  | "No" => .no
  | "Pc" => .pc
  | "Pd" => .pd
  | "Ps" => .ps
  | "Pe" => .pe
  | "Pi" => .pi
  | "Pf" => .pf
  | "Po" => .po
  | "Sm" => .sm
  | "Sc" => .sc
  | "Sk" => .sk
  | "So" => .so
  | "Zs" => .zs
  | "Zl" => .zl
  | "Zp" => .zp
  | "Cc" => .cc
  | "Cf" => .cf
  | "Cs" => .cs
  | "Co" => .co
  | _ => .cn

/-- The run-length text of the categories. -/
def categoryText : String :=
  "Cc32ZsPo3ScPo3PsPePoSmPoPdPo2Nd10Po2Sm3Po2Lu26PsPoPeSkPcSkLl26PsSmPeSmCc33ZsPoSc4SoPoSkSoL" ++
  "oPiSmCfSoSkSoSmNo2SkLlPo2SkNoLoPfNo3PoLu23SmLu7Ll24SmLl8LuLlLuLlLuLlLuLlLuLlLuLlLuLlLuLlLu" ++
  "LlLuLlLuLlLuLlLuLlLuLlLuLlLuLlLuLlLuLlLuLlLuLlLuLlLuLlLuLlLuLlLuLlLuLlLuLlLuLl2LuLlLuLlLuL" ++
  "lLuLlLuLlLuLlLuLlLuLl2LuLlLuLlLuLlLuLlLuLlLuLlLuLlLuLlLuLlLuLlLuLlLuLlLuLlLuLlLuLlLuLlLuLl" ++
  "LuLlLuLlLuLlLuLlLuLlLuLlLu2LlLuLlLuLl3Lu2LlLuLlLu2LlLu3Ll2Lu4LlLu2LlLu3Ll3Lu2LlLu2LlLuLlLu" ++
  "LlLu2LlLuLl2LuLlLu2LlLu3LlLuLlLu2Ll2LoLuLl3Lo4LuLtLlLuLtLlLuLtLlLuLlLuLlLuLlLuLlLuLlLuLlLu" ++
  "LlLuLl2LuLlLuLlLuLlLuLlLuLlLuLlLuLlLuLlLuLl2LuLtLlLuLlLu3LlLuLlLuLlLuLlLuLlLuLlLuLlLuLlLuL" ++
  "lLuLlLuLlLuLlLuLlLuLlLuLlLuLlLuLlLuLlLuLlLuLlLuLlLuLlLuLlLuLlLuLlLuLlLuLlLuLlLuLlLuLl7Lu2L" ++
  "lLu2Ll2LuLlLu4LlLuLlLuLlLuLlLuLl69Lo2Ll26Lm18Sk4Lm12Sk14Lm5Sk7LmSkLmSk17Mn112LuLlLuLlLmSkL" ++
  "uLlCn2LmLl3PoLuCn4Sk2LuPoLu3CnLuCnLu2LlLu17CnLu9Ll35LuLl2Lu3Ll3LuLlLuLlLuLlLuLlLuLlLuLlLuL" ++
  "lLuLlLuLlLuLlLuLlLuLl5LuLlSmLuLlLu2Ll2Lu51Ll48LuLlLuLlLuLlLuLlLuLlLuLlLuLlLuLlLuLlLuLlLuLl" ++
  "LuLlLuLlLuLlLuLlLuLlLuLlSoMn5Me2LuLlLuLlLuLlLuLlLuLlLuLlLuLlLuLlLuLlLuLlLuLlLuLlLuLlLuLlLu" ++
  "LlLuLlLuLlLuLlLuLlLuLlLuLlLuLlLuLlLuLlLuLlLuLlLuLlLu2LlLuLlLuLlLuLlLuLlLuLlLuLl2LuLlLuLlLu" ++
  "LlLuLlLuLlLuLlLuLlLuLlLuLlLuLlLuLlLuLlLuLlLuLlLuLlLuLlLuLlLuLlLuLlLuLlLuLlLuLlLuLlLuLlLuLl" ++
  "LuLlLuLlLuLlLuLlLuLlLuLlLuLlLuLlLuLlLuLlLuLlLuLlLuLlLuLlLuLlLuLlLuLlLuLlLuLlLuLlLuLlLuLlLu" ++
  "LlCnLu38Cn2LmPo6Ll41PoPdCn2So2ScCnMn45PdMnPoMn2PoMn2PoMnCn8Lo27Cn4Lo4Po2Cn11Cf6Sm3Po2ScPo2" ++
  "So2Mn11PoCfPo3Lo32LmLo10Mn21Nd10Po4Lo2MnLo99PoLoMn7CfSoMn6Lm2Mn2SoMn4Lo2Nd10Lo3So2LoPo14Cn" ++
  "CfLoMnLo30Mn27Cn2Lo89Mn11LoCn14Nd10Lo33Mn9Lm2SoPo3LmCn2MnSc2Lo22Mn4LmMn9LmMn3LmMn5Cn2Po15C" ++
  "nLo25Mn3Cn2PoCnLo11Cn5Lo24SkLo7Cf2Cn5Mn9Lo41LmMn24CfMn32McLo54MnMcMnLoMc3Mn8Mc4MnMc2LoMn7L" ++
  "o10Mn2Po2Nd10PoLmLo15MnMc2CnLo8Cn2Lo2Cn2Lo22CnLo7CnLoCn3Lo4Cn2MnLoMc3Mn4Cn2Mc2Cn2Mc2MnLoCn" ++
  "8McCn4Lo2CnLo3Mn2Cn2Nd10Lo2Sc2No6SoScLoPoMnCn2Mn2McCnLo6Cn4Lo2Cn2Lo22CnLo7CnLo2CnLo2CnLo2C" ++
  "n2MnCnMc3Mn2Cn4Mn2Cn2Mn3Cn3MnCn7Lo4CnLoCn7Nd10Mn2Lo3MnPoCn10Mn2McCnLo9CnLo3CnLo22CnLo7CnLo" ++
  "2CnLo5Cn2MnLoMc3Mn5CnMn2McCnMc2MnCn2LoCn15Lo2Mn2Cn2Nd10PoScCn7LoMn6CnMnMc2CnLo8Cn2Lo2Cn2Lo" ++
  "22CnLo7CnLo2CnLo5Cn2MnLoMcMnMcMn4Cn2Mc2Cn2Mc2MnCn7Mn2McCn4Lo2CnLo3Mn2Cn2Nd10SoLoNo6Cn10MnL" ++
  "oCnLo6Cn3Lo3CnLo4Cn3Lo2CnLoCnLo2Cn3Lo2Cn3Lo3Cn3Lo12Cn4Mc2MnMc2Cn3Mc3CnMc3MnCn2LoCn6McCn14N" ++
  "d10No3So6ScSoCn5MnMc3MnLo8CnLo3CnLo23CnLo16Cn2MnLoMn3Mc4CnMn3CnMn4Cn7Mn2CnLo3CnLo2Cn2Lo2Mn" ++
  "2Cn2Nd10Cn7PoNo7SoLoMnMc2PoLo8CnLo3CnLo23CnLo10CnLo5Cn2MnLoMcMnMc5CnMnMc2CnMc2Mn2Cn7Mc2Cn5" ++
  "Lo3CnLo2Mn2Cn2Nd10CnLo2McCn12Mn2Mc2Lo9CnLo3CnLo41Mn2LoMc3Mn4CnMc3CnMc3MnLoSoCn4Lo3McNo7Lo3" ++
  "Mn2Cn2Nd10No9SoLo6CnMnMc2CnLo18Cn3Lo24CnLo9CnLoCn2Lo7Cn3MnCn4Mc3Mn3CnMnCnMc8Cn6Nd10Cn2Mc2P" ++
  "oCn12Lo48MnLo2Mn7Cn4ScLo6LmMn8PoNd10Po2Cn37Lo2CnLoCnLo5CnLo24CnLoCnLo10MnLo2Mn9LoCn2Lo5CnL" ++
  "mCnMn7CnNd10Cn2Lo4Cn32LoSo3Po15SoPoSo3Mn2So6Nd10No10SoMnSoMnSoMnPsPePsPeMc2Lo8CnLo36Cn4Mn1" ++
  "4McMn5PoMn2Lo5Mn11CnMn36CnSo8MnSo6CnSo2Po5So4Po2Cn37Lo43Mc2Mn4McMn6McMn2Mc2Mn2LoNd10Po6Lo6" ++
  "Mc2Mn2Lo4Mn3LoMc3Lo2Mc7Lo3Mn4Lo13MnMc2Mn2Mc6MnLoMcNd10Mc3MnSo2Lu38CnLuCn5LuCn2Ll43PoLmLl3L" ++
  "o329CnLo4Cn2Lo7CnLoCnLo4Cn2Lo41CnLo4Cn2Lo33CnLo4Cn2Lo7CnLoCnLo4Cn2Lo15CnLo57CnLo4Cn2Lo67Cn" ++
  "2Mn3Po9No20Cn3Lo16So10Cn6Lu86Cn2Ll6Cn2PdLo620SoPoLo17ZsLo26PsPeCn3Lo75Po3Nl3Lo8Cn7Lo18Mn3M" ++
  "cCn9Lo19Mn2McPo2Cn9Lo18Mn2Cn12Lo13CnLo3CnMn2Cn12Lo52Mn2McMn7Mc8MnMc2Mn11Po3LmPo3ScLoMnCn2N" ++
  "d10Cn6No10Cn6Po6PdPo4Mn3CfMnNd10Cn6Lo35LmLo53Cn7Lo5Mn2Lo34MnLoCn5Lo70Cn10Lo31CnMn3Mc4Mn2Mc" ++
  "3Cn4Mc2MnMc6Mn3Cn4SoCn3Po2Nd10Lo30Cn2Lo5Cn11Lo44Cn4Lo26Cn6Nd10NoCn3So34Lo23Mn2Mc2MnCn2Po2L" ++
  "o53McMnMcMn7CnMnMcMnMc2Mn8Mc6Mn10Cn2MnNd10Cn6Nd10Cn6Po7LmPo6Cn2Mn14MeMn31Cn2Mn12Cn20Mn4McL" ++
  "o47MnMcMn5McMnMc5MnMc2Lo8CnPo2Nd10Po7So10Mn9So9Po3Mn2McLo30McMn4Mc2Mn2McMn3Lo2Nd10Lo44MnMc" ++
  "Mn2Mc3MnMcMn3Mc2Cn8Po4Lo36Mc8Mn8Mc2Mn2Cn3Po5Nd10Cn3Lo3Nd10Lo30Lm6Po2Ll9LuLlCn5Lu43Cn2Lu3Po" ++
  "8Cn8Mn3PoMn13McMn7Lo4MnLo6MnLo2McMn2LoCn5Ll44Lm63Ll13LmLl34Lm37Mn64LuLlLuLlLuLlLuLlLuLlLuL" ++
  "lLuLlLuLlLuLlLuLlLuLlLuLlLuLlLuLlLuLlLuLlLuLlLuLlLuLlLuLlLuLlLuLlLuLlLuLlLuLlLuLlLuLlLuLlL" ++
  "uLlLuLlLuLlLuLlLuLlLuLlLuLlLuLlLuLlLuLlLuLlLuLlLuLlLuLlLuLlLuLlLuLlLuLlLuLlLuLlLuLlLuLlLuL" ++
  "lLuLlLuLlLuLlLuLlLuLlLuLlLuLlLuLlLuLlLuLlLuLlLuLlLuLlLuLlLuLlLuLlLuLlLuLlLuLlLuLlLuLlLuLlL" ++
  "uLlLuLl9LuLlLuLlLuLlLuLlLuLlLuLlLuLlLuLlLuLlLuLlLuLlLuLlLuLlLuLlLuLlLuLlLuLlLuLlLuLlLuLlLu" ++
  "LlLuLlLuLlLuLlLuLlLuLlLuLlLuLlLuLlLuLlLuLlLuLlLuLlLuLlLuLlLuLlLuLlLuLlLuLlLuLlLuLlLuLlLuLl" ++
  "LuLlLuLlLuLlLuLlLuLlLuLl9Lu8Ll6Cn2Lu6Cn2Ll8Lu8Ll8Lu8Ll6Cn2Lu6Cn2Ll8CnLuCnLuCnLuCnLuLl8Lu8L" ++
  "l14Cn2Ll8Lt8Ll8Lt8Ll8Lt8Ll5CnLl2Lu4LtSkLlSk3Ll3CnLl2Lu4LtSk3Ll4Cn2Ll2Lu4CnSk3Ll8Lu5Sk3Cn2L" ++
  "l3CnLl2Lu4LtSk2CnZs11Cf5Pd6Po2PiPfPsPi2PfPsPiPo8ZlZpCf5ZsPo9PiPfPo4Pc2Po3SmPsPePo11SmPoPcP" ++
  "o10ZsCf5CnCf10NoLmCn2No6Sm3PsPeLmNo10Sm3PsPeCnLm13Cn3Sc34Cn14Mn13Me4MnMe3Mn12Cn15So2LuSo4L" ++
  "uSo2LlLu3Ll2Lu3LlSoLuSo2SmLu5So6LuSoLuSoLuSoLu4SoLlLu4LlLo4LlSo2Ll2Lu2Sm5LuLl4SoSmSo2LlSoN" ++
  "o16Nl35LuLlNl4NoSo2Cn4Sm5So5Sm2So4SmSo2SmSo2SmSo7SmSo31Sm2So2SmSoSmSo31Sm268So8PsPePsPeSo2" ++
  "0Sm2So7PsPeSo81SmSo30Sm25So40Sm6So72Cn22So11Cn21No60So78No22So183SmSo9SmSo54Sm8So111SmSo24" ++
  "8PsPePsPePsPePsPePsPePsPePsPeNo30So44Sm5PsPeSm31PsPePsPePsPePsPePsPeSm16So256Sm131PsPePsPe" ++
  "PsPePsPePsPePsPePsPePsPePsPePsPePsPeSm63PsPePsPeSm32PsPeSm258So48Sm21So2Sm6So39Cn2So138Lu4" ++
  "8Ll48LuLlLu3Ll2LuLlLuLlLuLlLu4LlLuLl2LuLl6Lm2Lu3LlLuLlLuLlLuLlLuLlLuLlLuLlLuLlLuLlLuLlLuLl" ++
  "LuLlLuLlLuLlLuLlLuLlLuLlLuLlLuLlLuLlLuLlLuLlLuLlLuLlLuLlLuLlLuLlLuLlLuLlLuLlLuLlLuLlLuLlLu" ++
  "LlLuLlLuLlLuLlLuLlLuLlLuLlLuLlLuLlLuLlLuLlLuLlLuLlLuLlLuLlLuLlLuLl2So6LuLlLuLlMn3LuLlCn5Po" ++
  "4NoPo2Ll38CnLlCn5LlCn2Lo56Cn7LmPoCn14MnLo23Cn9Lo7CnLo7CnLo7CnLo7CnLo7CnLo7CnLo7CnLo7CnMn32" ++
  "Po2PiPfPiPfPo3PiPfPoPiPfPo9PdPo2PdPoPiPfPo2PiPfPsPePsPePsPePsPePo5LmPo10Pd2Po4PdPoPsPo13So" ++
  "2Po3PsPePsPePsPePsPePdCn34So26CnSo89Cn12So214Cn26So16ZsPo3SoLmLoNlPsPePsPePsPePsPePsPeSo2P" ++
  "sPePsPePsPePsPePdPsPe2SoNl9Mn4Mc2PdLm5So2Nl3LmLoPoSo2CnLo86Cn2Mn2Sk2Lm2LoPdLo90PoLm3LoCn5L" ++
  "o43CnLo94CnSo2No4So10Lo32So38Cn9SoLo16So31CnNo10So30No8SoNo15So32No10So39No15So320Lo6592So" ++
  "64Lo21013LmLo1143Cn3So55Cn9Lo40Lm6Po2Lo268LmPo3Lo16Nd10Lo2Cn20LuLlLuLlLuLlLuLlLuLlLuLlLuLl" ++
  "LuLlLuLlLuLlLuLlLuLlLuLlLuLlLuLlLuLlLuLlLuLlLuLlLuLlLuLlLuLlLuLlLoMnMe3PoMn10PoLmLuLlLuLlL" ++
  "uLlLuLlLuLlLuLlLuLlLuLlLuLlLuLlLuLlLuLlLuLlLuLlLm2Mn2Lo70Nl10Mn2Po6Cn8Sk23Lm9Sk2LuLlLuLlLu" ++
  "LlLuLlLuLlLuLlLuLl3LuLlLuLlLuLlLuLlLuLlLuLlLuLlLuLlLuLlLuLlLuLlLuLlLuLlLuLlLuLlLuLlLuLlLuL" ++
  "lLuLlLuLlLuLlLuLlLuLlLuLlLuLlLuLlLuLlLuLlLuLlLuLlLuLlLmLl8LuLlLuLlLu2LlLuLlLuLlLuLlLuLlLmS" ++
  "k2LuLlLuLlLoLuLlLuLl3LuLlLuLlLuLlLuLlLuLlLuLlLuLlLuLlLuLlLuLlLu5LlLu5LlLuLlLuLlLuLlLuLlLuL" ++
  "lLuLlLuLlLu4LlLuLlLu2LlLuLlLuLlLuLlLuLlLuLlLuLlLuLlLuCn20Lm4LuLlLoLm2LlLo7MnLo3MnLo4MnLo23" ++
  "Mc2Mn2McSo4MnCn3No6So2ScSoCn6Lo52Po4Cn8Mc2Lo50Mc16Mn2Cn8Po2Nd10Cn6Mn18Lo6Po3LoPoLo2MnNd10L" ++
  "o28Mn8Po2Lo23Mn11Mc2Cn11PoLo29Cn3Mn3McLo47MnMc2Mn4Mc2Mn2Mc3Po13CnLmNd10Cn4Po2Lo5MnLmLo9Nd1" ++
  "0Lo5CnLo41Mn6Mc2Mn2Mc2Mn2Cn9Lo3MnLo8MnMcCn2Nd10Cn2Po4Lo16LmLo6So3LoMcMnMcLo50MnLoMn3Lo2Mn2" ++
  "Lo5Mn2LoMnLoCn24Lo2LmPo2Lo11McMn2Mc2Po2LoLm2McMnCn10Lo6Cn2Lo6Cn2Lo6Cn9Lo7CnLo7CnLl43SkLm4L" ++
  "l9LmSk2Cn4Ll80Lo35Mc2MnMc2MnMc2PoMcMnCn2Nd10Cn6Lo11172Cn12Lo23Cn4Lo49Cn4Cs2048Co6400Lo366C" ++
  "n2Lo106Cn38Ll7Cn12Ll5Cn5LoMnLo10SmLo13CnLo5CnLoCnLo2CnLo2CnLo108Sk17So16Lo363PePsSo16Lo64S" ++
  "o2Lo54So8Cn32Lo12ScSo3Mn16Po7PsPePoCn6Mn16PoPd2Pc2PsPePsPePsPePsPePsPePsPePsPePsPePo2PsPeP" ++
  "o4Pc3Po3CnPo4PdPsPePsPePsPePo3SmPdSm3CnPoScPo2Cn4Lo5CnLo135Cn2CfCnPo3ScPo3PsPePoSmPoPdPo2N" ++
  "d10Po2Sm3Po2Lu26PsPoPeSkPcSkLl26PsSmPeSmPsPePoPsPePo2Lo10LmLo45Lm2Lo31Cn3Lo6Cn2Lo6Cn2Lo6Cn" ++
  "2Lo3Cn3Sc2SmSkSoSc2CnSoSm4So2Cn10Cf3So2Cn2Lo12CnLo26CnLo19CnLo2CnLo15Cn2Lo14Cn34Lo123Cn5Po" ++
  "3Cn4No45Cn3So9Nl53No4So17No2So3CnSo13Cn3SoCn47So45MnCn130Lo29Cn3Lo49Cn15MnNo27Cn4Lo32No4Cn" ++
  "9Lo20NlLo8NlCn5Lo38Mn5Cn5Lo30CnPoLo36Cn4Lo8PoNl5Cn42Lu40Ll40Lo78Cn2Nd10Cn6Lu36Cn4Ll36Cn4Lo" ++
  "40Cn8Lo52Cn11PoLu11CnLu15CnLu7CnLu2CnLl11CnLl15CnLl7CnLl2Cn3Lo52Cn12Lo311Cn9Lo22Cn10Lo8Cn2" ++
  "4Lm6CnLm42CnLm9Cn69Lo6Cn2LoCnLo44CnLo2Cn3LoCn2Lo23CnPoNo8Lo23So2No7Lo31Cn8No9Cn48Lo19CnLo2" ++
  "Cn5No5Lo22No6Cn3PoLo26Cn5PoLo26Cn38Lo56Cn4No2Lo2No16Cn2No46LoMn3CnMn2Cn5Mn4Lo4CnLo3CnLo29C" ++
  "n2Mn3Cn4MnNo9Cn7Po9Cn7Lo29No2PoLo29No3Cn32Lo8SoLo28Mn2Cn4No5Po7Cn9Lo54Cn3Po7Lo22Cn2No8Lo19" ++
  "Cn5No8Lo18Cn7Po4Cn12No7Cn80Lo73Cn55Lu51Cn13Ll51Cn7No6Lo36Mn4Cn8Nd10Cn6Nd10Lo4LmLoLu22Cn3Mn" ++
  "5PdLmLl22Cn8Sm2Cn208No31CnLo42CnMn2PdCn2Lo2Cn16Lo3LmLo2Cn8PoSo8Cn33Mn6Lo29No10LoCn8Lo22Mn1" ++
  "1No4Po5Cn22Lo18Mn4Po4Cn38Lo21No7Cn20Lo23Cn9McMnMcLo53Mn15Po7Cn4No20Nd10MnLo2Mn2LoCn9Mn3McL" ++
  "o45Mc3Mn4Mc2Mn2Po2CfPo4MnCn10CfCn2Lo25Cn7Nd10Cn6Mn3Lo36Mn5McMn8CnNd10Po4LoMc2LoCn8Lo35MnPo" ++
  "2LoCn9Mn2McLo48Mc3Mn9Mc2Lo4Po4Mn4PoMcMnNd10LoPoLoPo3CnNo20Cn11Lo18CnLo25Mc3Mn3Mc2MnMcMn2Po" ++
  "6MnLo2MnCn62Lo7CnLoCnLo4CnLo15CnLo10PoCn6Lo47MnMc3Mn8Cn5Nd10Cn6Mn2Mc2CnLo8Cn2Lo2Cn2Lo22CnL" ++
  "o7CnLo2CnLo5CnMn2LoMc2MnMc4Cn2Mc2Cn2Mc3Cn2LoCn6McCn5Lo5Mc2Cn2Mn7Cn3Mn5Cn11Lo10CnLoCn2LoCnL" ++
  "o38CnLoMc3Mn6CnMcCn2McCnMc4CnMc2MnMcMnLoMnLoPo2CnPo2Cn8Mn2Cn29Lo53Mc3Mn8Mc2Mn3McMnLo4Po5Nd" ++
  "10Po2CnPoMnLo3Cn30Lo48Mc3Mn6McMnMc4Mn2McMn2Lo2PoLoCn8Nd10Cn166Lo47Mc3Mn4Cn2Mc4Mn2McMn2Po23" ++
  "Lo4Mn2Cn34Lo48Mc3Mn8Mc2MnMcMn2Po3LoCn11Nd10Cn6Po13Cn19Lo43MnMcMnMc2Mn6McMnLoPoCn6Nd10Cn6Nd" ++
  "20Cn28Lo27Cn2MnMcMnMc2Mn4McMn5Cn4Nd10No2Po3SoLo7Cn185Lo44Mc3Mn9McMn2PoCn100Lu32Ll32Nd10No9" ++
  "Cn12Lo8Cn2LoCn2Lo8CnLo2CnLo24Mc6CnMc2Cn2Mn2McMnLoMcLoMcMnPo3Cn9Nd10Cn70Lo8Cn2Lo39Mc3Mn4Cn2" ++
  "Mn2Mc4MnLoPoLoMcCn27LoMn10Lo40Mn6McLoMn4Po8MnCn8LoMn6Mc2Mn3Lo46Mn13McMn2Po3LoPo5Cn13Lo73Cn" ++
  "7Po10Cn86MnMcMn3McMnMcCn88Lo33PoCn14Nd10Cn6Lo9CnLo37McMn7CnMn6McMnLoPo5Cn10Nd10No19Cn3Po2L" ++
  "o30Cn2Mn22CnMcMn7McMn2McMn2Cn73Lo7CnLo2CnLo38Mn6Cn3MnCnMn2CnMn7LoMnCn8Nd10Cn6Lo6CnLo2CnLo3" ++
  "2Mc5CnMn2CnMc2MnMcMnLoCn7Nd10Cn6Lo41LmLo2Cn4Nd10Cn246Lo19Mn2Mc2Po2Cn7Mn2LoMcLo13CnLo34Mc2M" ++
  "n5Cn3Mc2MnMcMnPo13Nd10MnCn85LoCn15No21So8Sc4So17Cn13PoLo922Cn102Nl111CnPo5Cn11Lo196Cn2636L" ++
  "o97Po2Cn13Lo1072Cf16MnLo6Mn15Cn10Lo3995Cn5Lo583Cn6841Lo30Mn12Mc3Mn3Nd10Cn1734Lo569Cn7Lo31C" ++
  "nNd10Cn4Po2Lo79CnNd10Cn6Lo30Cn2Mn5PoCn10Lo48Mn7Po5So4Lm4PoSoCn10Nd10CnNo7CnLo21Cn5Lo19Cn43" ++
  "2Lm3Lo40Lm2Po3Nd10Cn198Lu32Ll32No23Po4Cn5Lu25Cn2Ll25Cn44Lo75Cn4MnLoMc55Cn7Mn4Lm13Cn64Lm2Po" ++
  "LmMnCn11Mc2Lm2Nl3Cn9Lo7382Cn41Lo32Cn97Lo115Cn8701Lm4CnLm7CnLm2CnLo291Cn15LoCn29Lo3Cn2LoCn1" ++
  "4Lo4Cn8Lo396Cn2308Lo107Cn5Lo13Cn3Lo9Cn7Lo10Cn2SoMn2PoCf4Cn3932So240Nd10So3Cn3So436Cn6So23C" ++
  "n15So16SmCn15Mn46Cn2Mn23Cn9So116Cn60So246Cn10So39Cn2So60Mc2Mn3So3Mc6Cf8Mn8So2Mn7So30Mn4So6" ++
  "1Cn21So66Mn3SoCn122No20Cn12No20Cn12So87Cn9No25Cn135Lu26Ll26Lu26Ll7CnLl18Lu26Ll26LuCnLu2Cn2" ++
  "LuCn2Lu2Cn2Lu4CnLu8Ll4CnLlCnLl7CnLl11Lu26Ll26Lu2CnLu4Cn2Lu8CnLu7CnLl26Lu2CnLu4CnLu5CnLuCn3" ++
  "Lu7CnLl26Lu26Ll26Lu26Ll26Lu26Ll26Lu26Ll26Lu26Ll26Lu26Ll28Cn2Lu25SmLl25SmLl6Lu25SmLl25SmLl6" ++
  "Lu25SmLl25SmLl6Lu25SmLl25SmLl6Lu25SmLl25SmLl6LuLlCn2Nd50So512Mn55So4Mn50So8MnSo14MnSo2Po5C" ++
  "n15Mn5CnMn15Cn1104Ll10LoLl20Cn6Ll6Cn213Mn7CnMn17Cn2Mn7CnMn2CnMn5Cn5Lm62Cn33MnCn112Lo45Cn3M" ++
  "n7Lm7Cn2Nd10Cn4LoSoCn320Lo30MnCn17Lo44Mn4Nd10Cn5ScCn464Lo27LmMn4Nd10Cn214Lo30Mn2LoNd10Cn4P" ++
  "oCn192Lo31CnLo3MnLo2MnLo7Mn2Lo5MnCn8LoLmCn224Lo7CnLo4CnLo2CnLo15CnLo197Cn2No9Mn7Cn41Lu34Ll" ++
  "34Mn7LmCn4Nd10Cn4Po2Cn785No59SoNo3ScNo4Cn76No45SoNo15Cn194Lo4CnLo27CnLo2CnLoCn2LoCnLo10CnL" ++
  "o4CnLoCnLoCn6LoCn4LoCnLoCnLoCnLo3CnLo2CnLoCn2LoCnLoCnLoCnLoCnLoCnLo2CnLoCn2Lo4CnLo7CnLo4Cn" ++
  "Lo4CnLoCnLo10CnLo17Cn5Lo3CnLo5CnLo17Cn52Sm2Cn270So44Cn4So100Cn12So15Cn2So15CnSo15CnSo37Cn1" ++
  "0No13So161Cn56So29Cn13So44Cn4So9Cn7So2Cn14So6Cn154So251Sk5So729Cn3So17Cn3So13Cn3So218Cn6So" ++
  "12Cn4SoCn15So12Cn4So56Cn8So10Cn6So40Cn8So30Cn2So12Cn4So2Cn14Sm9Cn39So344Cn8So14Cn2So13Cn3S" ++
  "o11Cn3So57CnSoCn4So16Cn2So12Cn4So10Cn7So147CnSo92Nd10SoCn1029Lo42720Cn32Lo4382Cn2Lo5774Cn2" ++
  "Lo7473Cn15Lo622Cn2466Lo542Cn1506Lo4939Cn5Lo8490Cn707463CfCn30Cf96Cn128Mn240Cn65040Co65534C" ++
  "n2Co65534Cn2"

/-- The runs of code points of one category. -/
def categoryRuns : List Run := Run.readAll categoryText

/-- The general category of a character. -/
def category (c : Char) : Category :=
  ((Run.codeAt categoryRuns c.toNat).map Category.ofCode).getD .cn

/-- The code points of some categories in version 16.0. -/
def categorySet (ks : List Category) : RangeSet :=
  let s := Run.select categoryRuns fun code => ks.contains (Category.ofCode code)
  let s := if ks.contains .cn then s.union laterSet else s.diff laterSet
  let glottal := RangeSet.range 0x295 0x295
  if ks.contains .ll then s.union glottal
  else if ks.contains .lo then s.diff glottal
  else s

/-! ## Groups of categories -/

namespace Category

/-- The categories of cased letters. -/
def casedLetters : List Category := [.lu, .ll, .lt]

/-- The categories of letters. -/
def letters : List Category := [.lu, .ll, .lt, .lm, .lo]

/-- The categories of marks. -/
def marks : List Category := [.mn, .mc, .me]

/-- The categories of numbers. -/
def numbers : List Category := [.nd, .nl, .no]

/-- The categories of punctuation. -/
def punctuation : List Category := [.pc, .pd, .ps, .pe, .pi, .pf, .po]

/-- The categories of symbols. -/
def symbols : List Category := [.sm, .sc, .sk, .so]

/-- The categories of separators. -/
def separators : List Category := [.zs, .zl, .zp]

/-- The categories of characters that are neither letters, marks, numbers, punctuation, symbols nor
separators. -/
def others : List Category := [.cc, .cf, .co, .cn]

/-- The categories that a name stands for, given in small letters without separators. There is no
name for the surrogates, which are no characters. -/
def named? : String → Option (List Category)
  | "l" | "letter" => some letters
  | "lc" | "casedletter" => some casedLetters
  | "lu" | "uppercaseletter" => some [.lu]
  | "ll" | "lowercaseletter" => some [.ll]
  | "lt" | "titlecaseletter" => some [.lt]
  | "lm" | "modifierletter" => some [.lm]
  | "lo" | "otherletter" => some [.lo]
  | "m" | "mark" | "combiningmark" => some marks
  | "mn" | "nonspacingmark" => some [.mn]
  | "mc" | "spacingmark" => some [.mc]
  | "me" | "enclosingmark" => some [.me]
  | "n" | "number" => some numbers
  | "nd" | "decimalnumber" | "digit" => some [.nd]
  | "nl" | "letternumber" => some [.nl]
  | "no" | "othernumber" => some [.no]
  | "p" | "punctuation" | "punct" => some punctuation
  | "pc" | "connectorpunctuation" => some [.pc]
  | "pd" | "dashpunctuation" => some [.pd]
  | "ps" | "openpunctuation" => some [.ps]
  | "pe" | "closepunctuation" => some [.pe]
  | "pi" | "initialpunctuation" => some [.pi]
  | "pf" | "finalpunctuation" => some [.pf]
  | "po" | "otherpunctuation" => some [.po]
  | "s" | "symbol" => some symbols
  | "sm" | "mathsymbol" => some [.sm]
  | "sc" | "currencysymbol" => some [.sc]
  | "sk" | "modifiersymbol" => some [.sk]
  | "so" | "othersymbol" => some [.so]
  | "z" | "separator" => some separators
  | "zs" | "spaceseparator" => some [.zs]
  | "zl" | "lineseparator" => some [.zl]
  | "zp" | "paragraphseparator" => some [.zp]
  | "c" | "other" => some others
  | "cc" | "control" | "cntrl" => some [.cc]
  | "cf" | "format" => some [.cf]
  | "co" | "privateuse" => some [.co]
  | "cn" | "unassigned" => some [.cn]
  | _ => none

end Category

end RequestBinding.Unicode
