import DecisionFlow.Text.RunTable

/-!
# General categories

Every code point has one of thirty general categories. The table below writes the categories
of Unicode 16 as runs in code point order: a two-letter abbreviation, then the length of the
run in hexadecimal, left out for a run of one.
-/
namespace DecisionFlow.Text

/-- The general category of a code point. -/
inductive Category where
  /-- The abbreviation `Lu`: an upper-case letter. -/
  | upperLetter
  /-- The abbreviation `Ll`: a lower-case letter. -/
  | lowerLetter
  /-- The abbreviation `Lt`: a title-case letter. -/
  | titleLetter
  /-- The abbreviation `Lm`: a modifier letter. -/
  | modifierLetter
  /-- The abbreviation `Lo`: another letter. -/
  | otherLetter
  /-- The abbreviation `Mn`: a nonspacing mark. -/
  | nonspacingMark
  /-- The abbreviation `Mc`: a spacing mark. -/
  | spacingMark
  /-- The abbreviation `Me`: an enclosing mark. -/
  | enclosingMark
  /-- The abbreviation `Nd`: a decimal digit. -/
  | decimalDigit
  /-- The abbreviation `Nl`: a letter number. -/
  | letterNumber
  /-- The abbreviation `No`: another number. -/
  | otherNumber
  /-- The abbreviation `Pc`: connector punctuation. -/
  | connectorPunctuation
  /-- The abbreviation `Pd`: dash punctuation. -/
  | dashPunctuation
  /-- The abbreviation `Ps`: opening punctuation. -/
  | openPunctuation
  /-- The abbreviation `Pe`: closing punctuation. -/
  | closePunctuation
  /-- The abbreviation `Pi`: initial quotation. -/
  | initialQuote
  /-- The abbreviation `Pf`: final quotation. -/
  | finalQuote
  /-- The abbreviation `Po`: other punctuation. -/
  | otherPunctuation
  /-- The abbreviation `Sm`: a mathematical symbol. -/
  | mathSymbol
  /-- The abbreviation `Sc`: a currency symbol. -/
  | currencySymbol
  /-- The abbreviation `Sk`: a modifier symbol. -/
  | modifierSymbol
  /-- The abbreviation `So`: another symbol. -/
  | otherSymbol
  /-- The abbreviation `Zs`: a space separator. -/
  | spaceSeparator
  /-- The abbreviation `Zl`: the line separator. -/
  | lineSeparator
  /-- The abbreviation `Zp`: the paragraph separator. -/
  | paragraphSeparator
  /-- The abbreviation `Cc`: a control. -/
  | control
  /-- The abbreviation `Cf`: a format character. -/
  | format
  /-- The abbreviation `Cs`: a surrogate. -/
  | surrogate
  /-- The abbreviation `Co`: private use. -/
  | privateUse
  /-- The abbreviation `Cn`: unassigned. -/
  | unassigned
deriving DecidableEq, Repr, Inhabited

namespace Category

/-- The two-letter abbreviation of a category. -/
def abbreviation : Category → String
  | .upperLetter => "Lu"
  | .lowerLetter => "Ll"
  | .titleLetter => "Lt"
  | .modifierLetter => "Lm"
  | .otherLetter => "Lo"
  | .nonspacingMark => "Mn"
  | .spacingMark => "Mc"
  | .enclosingMark => "Me"
  | .decimalDigit => "Nd"
  | .letterNumber => "Nl"
  | .otherNumber => "No"
  | .connectorPunctuation => "Pc"
  | .dashPunctuation => "Pd"
  | .openPunctuation => "Ps"
  | .closePunctuation => "Pe"
  | .initialQuote => "Pi"
  | .finalQuote => "Pf"
  | .otherPunctuation => "Po"
  | .mathSymbol => "Sm"
  | .currencySymbol => "Sc"
  | .modifierSymbol => "Sk"
  | .otherSymbol => "So"
  | .spaceSeparator => "Zs"
  | .lineSeparator => "Zl"
  | .paragraphSeparator => "Zp"
  | .control => "Cc"
  | .format => "Cf"
  | .surrogate => "Cs"
  | .privateUse => "Co"
  | .unassigned => "Cn"

/-- Every category once. -/
def all : List Category :=
  [.upperLetter, .lowerLetter, .titleLetter, .modifierLetter,
   .otherLetter, .nonspacingMark, .spacingMark, .enclosingMark,
   .decimalDigit, .letterNumber, .otherNumber, .connectorPunctuation,
   .dashPunctuation, .openPunctuation, .closePunctuation, .initialQuote,
   .finalQuote, .otherPunctuation, .mathSymbol, .currencySymbol,
   .modifierSymbol, .otherSymbol, .spaceSeparator, .lineSeparator,
   .paragraphSeparator, .control, .format, .surrogate,
   .privateUse, .unassigned]

/-- The category of an abbreviation. -/
def ofAbbreviation? (text : String) : Option Category :=
  all.find? fun category => category.abbreviation == text

/-- The major class of a category: the first letter of its abbreviation. -/
def major (category : Category) : Char :=
  category.abbreviation.toList.headD 'C'

end Category

/-- The categories of all code points as runs. -/
def categoryRuns : String :=
  "Cc20ZsPo3ScPo3PsPePoSmPoPdPo2NdaPo2Sm3Po2Lu1aPsPoPeSkPcSkLl1aPsSmPeSmCc21ZsPoSc4SoPoSkSoLoPi
   SmCfSoSkSoSmNo2SkLlPo2SkNoLoPfNo3PoLu17SmLu7Ll18SmLl8LuLlLuLlLuLlLuLlLuLlLuLlLuLlLuLlLuLlLuLl
   LuLlLuLlLuLlLuLlLuLlLuLlLuLlLuLlLuLlLuLlLuLlLuLlLuLlLuLlLuLlLuLlLuLlLuLl2LuLlLuLlLuLlLuLlLuLl
   LuLlLuLlLuLl2LuLlLuLlLuLlLuLlLuLlLuLlLuLlLuLlLuLlLuLlLuLlLuLlLuLlLuLlLuLlLuLlLuLlLuLlLuLlLuLl
   LuLlLuLlLuLlLu2LlLuLlLuLl3Lu2LlLuLlLu2LlLu3Ll2Lu4LlLu2LlLu3Ll3Lu2LlLu2LlLuLlLuLlLu2LlLuLl2LuLl
   Lu2LlLu3LlLuLlLu2Ll2LoLuLl3Lo4LuLtLlLuLtLlLuLtLlLuLlLuLlLuLlLuLlLuLlLuLlLuLlLuLl2LuLlLuLlLuLl
   LuLlLuLlLuLlLuLlLuLlLuLl2LuLtLlLuLlLu3LlLuLlLuLlLuLlLuLlLuLlLuLlLuLlLuLlLuLlLuLlLuLlLuLlLuLlLu
   LlLuLlLuLlLuLlLuLlLuLlLuLlLuLlLuLlLuLlLuLlLuLlLuLlLuLlLuLlLuLl7Lu2LlLu2Ll2LuLlLu4LlLuLlLuLlLu
   LlLuLl45LoLl1bLm12Sk4LmcSkeLm5Sk7LmSkLmSk11Mn70LuLlLuLlLmSkLuLlCn2LmLl3PoLuCn4Sk2LuPoLu3CnLuCn
   Lu2LlLu11CnLu9Ll23LuLl2Lu3Ll3LuLlLuLlLuLlLuLlLuLlLuLlLuLlLuLlLuLlLuLlLuLlLuLl5LuLlSmLuLlLu2Ll2
   Lu33Ll30LuLlLuLlLuLlLuLlLuLlLuLlLuLlLuLlLuLlLuLlLuLlLuLlLuLlLuLlLuLlLuLlLuLlSoMn5Me2LuLlLuLlLu
   LlLuLlLuLlLuLlLuLlLuLlLuLlLuLlLuLlLuLlLuLlLuLlLuLlLuLlLuLlLuLlLuLlLuLlLuLlLuLlLuLlLuLlLuLlLuLl
   LuLlLu2LlLuLlLuLlLuLlLuLlLuLlLuLl2LuLlLuLlLuLlLuLlLuLlLuLlLuLlLuLlLuLlLuLlLuLlLuLlLuLlLuLlLuLl
   LuLlLuLlLuLlLuLlLuLlLuLlLuLlLuLlLuLlLuLlLuLlLuLlLuLlLuLlLuLlLuLlLuLlLuLlLuLlLuLlLuLlLuLlLuLlLu
   LlLuLlLuLlLuLlLuLlLuLlLuLlLuLlLuLlLuLlCnLu26Cn2LmPo6Ll29PoPdCn2So2ScCnMn2dPdMnPoMn2PoMn2PoMn
   Cn8Lo1bCn4Lo4Po2CnbCf6Sm3Po2ScPo2So2MnbPoCfPo3Lo20LmLoaMn15NdaPo4Lo2MnLo63PoLoMn7CfSoMn6Lm2Mn2
   SoMn4Lo2NdaLo3So2LoPoeCnCfLoMnLo1eMn1bCn2Lo59MnbLoCneNdaLo21Mn9Lm2SoPo3LmCn2MnSc2Lo16Mn4LmMn9
   LmMn3LmMn5Cn2PofCnLo19Mn3Cn2PoCnLobCn5Lo18SkLo6CnCf2Cn5Mn9Lo29LmMn18CfMn20McLo36MnMcMnLoMc3Mn8
   Mc4MnMc2LoMn7LoaMn2Po2NdaPoLmLofMnMc2CnLo8Cn2Lo2Cn2Lo16CnLo7CnLoCn3Lo4Cn2MnLoMc3Mn4Cn2Mc2Cn2
   Mc2MnLoCn8McCn4Lo2CnLo3Mn2Cn2NdaLo2Sc2No6SoScLoPoMnCn2Mn2McCnLo6Cn4Lo2Cn2Lo16CnLo7CnLo2CnLo2Cn
   Lo2Cn2MnCnMc3Mn2Cn4Mn2Cn2Mn3Cn3MnCn7Lo4CnLoCn7NdaMn2Lo3MnPoCnaMn2McCnLo9CnLo3CnLo16CnLo7CnLo2
   CnLo5Cn2MnLoMc3Mn5CnMn2McCnMc2MnCn2LoCnfLo2Mn2Cn2NdaPoScCn7LoMn6CnMnMc2CnLo8Cn2Lo2Cn2Lo16CnLo7
   CnLo2CnLo5Cn2MnLoMcMnMcMn4Cn2Mc2Cn2Mc2MnCn7Mn2McCn4Lo2CnLo3Mn2Cn2NdaSoLoNo6CnaMnLoCnLo6Cn3Lo3
   CnLo4Cn3Lo2CnLoCnLo2Cn3Lo2Cn3Lo3Cn3LocCn4Mc2MnMc2Cn3Mc3CnMc3MnCn2LoCn6McCneNdaNo3So6ScSoCn5Mn
   Mc3MnLo8CnLo3CnLo17CnLo10Cn2MnLoMn3Mc4CnMn3CnMn4Cn7Mn2CnLo3Cn2LoCn2Lo2Mn2Cn2NdaCn7PoNo7SoLoMn
   Mc2PoLo8CnLo3CnLo17CnLoaCnLo5Cn2MnLoMcMnMc5CnMnMc2CnMc2Mn2Cn7Mc2Cn6Lo2CnLo2Mn2Cn2NdaCnLo2McCnc
   Mn2Mc2Lo9CnLo3CnLo29Mn2LoMc3Mn4CnMc3CnMc3MnLoSoCn4Lo3McNo7Lo3Mn2Cn2NdaNo9SoLo6CnMnMc2CnLo12Cn3
   Lo18CnLo9CnLoCn2Lo7Cn3MnCn4Mc3Mn3CnMnCnMc8Cn6NdaCn2Mc2PoCncLo30MnLo2Mn7Cn4ScLo6LmMn8PoNdaPo2
   Cn25Lo2CnLoCnLo5CnLo18CnLoCnLoaMnLo2Mn9LoCn2Lo5CnLmCnMn7CnNdaCn2Lo4Cn20LoSo3PofSoPoSo3Mn2So6
   NdaNoaSoMnSoMnSoMnPsPePsPeMc2Lo8CnLo24Cn4MneMcMn5PoMn2Lo5MnbCnMn24CnSo8MnSo6CnSo2Po5So4Po2Cn25
   Lo2bMc2Mn4McMn6McMn2Mc2Mn2LoNdaPo6Lo6Mc2Mn2Lo4Mn3LoMc3Lo2Mc7Lo3Mn4LodMnMc2Mn2Mc6MnLoMcNdaMc3Mn
   So2Lu26CnLuCn5LuCn2Ll2bPoLmLl3Lo149CnLo4Cn2Lo7CnLoCnLo4Cn2Lo29CnLo4Cn2Lo21CnLo4Cn2Lo7CnLoCnLo4
   Cn2LofCnLo39CnLo4Cn2Lo43Cn2Mn3Po9No14Cn3Lo10SoaCn6Lu56Cn2Ll6Cn2PdLo26cSoPoLo11ZsLo1aPsPeCn3
   Lo4bPo3Nl3Lo8Cn7Lo12Mn3McCn9Lo13Mn2McPo2Cn9Lo12Mn2CncLodCnLo3CnMn2CncLo34Mn2McMn7Mc8MnMc2Mnb
   Po3LmPo3ScLoMnCn2NdaCn6NoaCn6Po6PdPo4Mn3CfMnNdaCn6Lo23LmLo35Cn7Lo5Mn2Lo22MnLoCn5Lo46CnaLo1fCn
   Mn3Mc4Mn2Mc3Cn4Mc2MnMc6Mn3Cn4SoCn3Po2NdaLo1eCn2Lo5CnbLo2cCn4Lo1aCn6NdaNoCn3So22Lo17Mn2Mc2MnCn2
   Po2Lo35McMnMcMn7CnMnMcMnMc2Mn8Mc6MnaCn2MnNdaCn6NdaCn6Po7LmPo6Cn2MneMeMn10Cn31Mn4McLo2fMnMcMn5
   McMnMc5MnMc2Lo8CnPo2NdaPo7SoaMn9So9Po3Mn2McLo1eMcMn4Mc2Mn2McMn3Lo2NdaLo2cMnMcMn2Mc3MnMcMn3Mc2
   Cn8Po4Lo24Mc8Mn8Mc2Mn2Cn3Po5NdaCn3Lo3NdaLo1eLm6Po2Ll9LuLlCn5Lu2bCn2Lu3Po8Cn8Mn3PoMndMcMn7Lo4Mn
   Lo6MnLo2McMn2LoCn5Ll2cLm3fLldLmLl22Lm25Mn40LuLlLuLlLuLlLuLlLuLlLuLlLuLlLuLlLuLlLuLlLuLlLuLlLu
   LlLuLlLuLlLuLlLuLlLuLlLuLlLuLlLuLlLuLlLuLlLuLlLuLlLuLlLuLlLuLlLuLlLuLlLuLlLuLlLuLlLuLlLuLlLuLl
   LuLlLuLlLuLlLuLlLuLlLuLlLuLlLuLlLuLlLuLlLuLlLuLlLuLlLuLlLuLlLuLlLuLlLuLlLuLlLuLlLuLlLuLlLuLlLu
   LlLuLlLuLlLuLlLuLlLuLlLuLlLuLlLuLlLuLlLuLlLuLlLuLlLuLlLuLlLuLl9LuLlLuLlLuLlLuLlLuLlLuLlLuLlLu
   LlLuLlLuLlLuLlLuLlLuLlLuLlLuLlLuLlLuLlLuLlLuLlLuLlLuLlLuLlLuLlLuLlLuLlLuLlLuLlLuLlLuLlLuLlLuLl
   LuLlLuLlLuLlLuLlLuLlLuLlLuLlLuLlLuLlLuLlLuLlLuLlLuLlLuLlLuLlLuLlLuLlLuLl9Lu8Ll6Cn2Lu6Cn2Ll8Lu8
   Ll8Lu8Ll6Cn2Lu6Cn2Ll8CnLuCnLuCnLuCnLuLl8Lu8LleCn2Ll8Lt8Ll8Lt8Ll8Lt8Ll5CnLl2Lu4LtSkLlSk3Ll3Cn
   Ll2Lu4LtSk3Ll4Cn2Ll2Lu4CnSk3Ll8Lu5Sk3Cn2Ll3CnLl2Lu4LtSk2CnZsbCf5Pd6Po2PiPfPsPi2PfPsPiPo8ZlZp
   Cf5ZsPo9PiPfPo4Pc2Po3SmPsPePobSmPoPcPoaZsCf5CnCfaNoLmCn2No6Sm3PsPeLmNoaSm3PsPeCnLmdCn3Sc21Cnf
   MndMe4MnMe3MncCnfSo2LuSo4LuSo2LlLu3Ll2Lu3LlSoLuSo2SmLu5So6LuSoLuSoLuSoLu4SoLlLu4LlLo4LlSo2Ll2
   Lu2Sm5LuLl4SoSmSo2LlSoNo10Nl23LuLlNl4NoSo2Cn4Sm5So5Sm2So4SmSo2SmSo2SmSo7SmSo1fSm2So2SmSoSmSo1f
   Sm10cSo8PsPePsPeSo14Sm2So7PsPeSo51SmSo1eSm19So28Sm6So48Cn16SobCn15No3cSo4eNo16Sob7SmSo9SmSo36
   Sm8So6fSmSof8PsPePsPePsPePsPePsPePsPePsPeNo1eSo2cSm5PsPeSm1fPsPePsPePsPePsPePsPeSm10So100Sm83
   PsPePsPePsPePsPePsPePsPePsPePsPePsPePsPePsPeSm3fPsPePsPeSm20PsPeSm102So30Sm15So2Sm6So27Cn2So20
   CnSo69Lu30Ll30LuLlLu3Ll2LuLlLuLlLuLlLu4LlLuLl2LuLl6Lm2Lu3LlLuLlLuLlLuLlLuLlLuLlLuLlLuLlLuLlLu
   LlLuLlLuLlLuLlLuLlLuLlLuLlLuLlLuLlLuLlLuLlLuLlLuLlLuLlLuLlLuLlLuLlLuLlLuLlLuLlLuLlLuLlLuLlLuLl
   LuLlLuLlLuLlLuLlLuLlLuLlLuLlLuLlLuLlLuLlLuLlLuLlLuLlLuLlLuLlLuLlLuLl2So6LuLlLuLlMn3LuLlCn5Po4
   NoPo2Ll26CnLlCn5LlCn2Lo38Cn7LmPoCneMnLo17Cn9Lo7CnLo7CnLo7CnLo7CnLo7CnLo7CnLo7CnLo7CnMn20Po2Pi
   PfPiPfPo3PiPfPoPiPfPo9PdPo2PdPoPiPfPo2PiPfPsPePsPePsPePsPePo5LmPoaPd2Po4PdPoPsPodSo2Po3PsPePs
   PePsPePsPePdCn22So1aCnSo59CncSod6Cn1aSo10ZsPo3SoLmLoNlPsPePsPePsPePsPePsPeSo2PsPePsPePsPePsPe
   PdPsPe2SoNl9Mn4Mc2PdLm5So2Nl3LmLoPoSo2CnLo56Cn2Mn2Sk2Lm2LoPdLo5aPoLm3LoCn5Lo2bCnLo5eCnSo2No4
   SoaLo20So26Cn9SoLo10So1fCnNoaSo1eNo8SoNofSo20NoaSo27NofSo140Lo19c0So40Lo5215LmLo477Cn3So37Cn9
   Lo28Lm6Po2Lo10cLmPo3Lo10NdaLo2Cn14LuLlLuLlLuLlLuLlLuLlLuLlLuLlLuLlLuLlLuLlLuLlLuLlLuLlLuLlLuLl
   LuLlLuLlLuLlLuLlLuLlLuLlLuLlLuLlLoMnMe3PoMnaPoLmLuLlLuLlLuLlLuLlLuLlLuLlLuLlLuLlLuLlLuLlLuLlLu
   LlLuLlLuLlLm2Mn2Lo46NlaMn2Po6Cn8Sk17Lm9Sk2LuLlLuLlLuLlLuLlLuLlLuLlLuLl3LuLlLuLlLuLlLuLlLuLlLu
   LlLuLlLuLlLuLlLuLlLuLlLuLlLuLlLuLlLuLlLuLlLuLlLuLlLuLlLuLlLuLlLuLlLuLlLuLlLuLlLuLlLuLlLuLlLuLl
   LuLlLuLlLmLl8LuLlLuLlLu2LlLuLlLuLlLuLlLuLlLmSk2LuLlLuLlLoLuLlLuLl3LuLlLuLlLuLlLuLlLuLlLuLlLuLl
   LuLlLuLlLuLlLu5LlLu5LlLuLlLuLlLuLlLuLlLuLlLuLlLuLlLu4LlLuLlLu2LlCn2LuLlCnLlCnLlLuLlLuLlLuLlLu
   Cn15Lm3LuLlLoLm2LlLo7MnLo3MnLo4MnLo17Mc2Mn2McSo4MnCn3No6So2ScSoCn6Lo34Po4Cn8Mc2Lo32Mc10Mn2Cn8
   Po2NdaCn6Mn12Lo6Po3LoPoLo2MnNdaLo1cMn8Po2Lo17MnbMc2CnbPoLo1dCn3Mn3McLo2fMnMc2Mn4Mc2Mn2Mc3PodCn
   LmNdaCn4Po2Lo5MnLmLo9NdaLo5CnLo29Mn6Mc2Mn2Mc2Mn2Cn9Lo3MnLo8MnMcCn2NdaCn2Po4Lo10LmLo6So3LoMcMn
   McLo32MnLoMn3Lo2Mn2Lo5Mn2LoMnLoCn18Lo2LmPo2LobMcMn2Mc2Po2LoLm2McMnCnaLo6Cn2Lo6Cn2Lo6Cn9Lo7Cn
   Lo7CnLl2bSkLm4Ll9LmSk2Cn4Ll50Lo23Mc2MnMc2MnMc2PoMcMnCn2NdaCn6Lo2ba4CncLo17Cn4Lo31Cn4Cs800
   Co1900Lo16eCn2Lo6aCn26Ll7CncLl5Cn5LoMnLoaSmLodCnLo5CnLoCnLo2CnLo2CnLo6cSk11Cn10Lo16bPePsSo10
   Lo40Cn2Lo36Cn7SoCn20LocScSo3Mn10Po7PsPePoCn6Mn10PoPd2Pc2PsPePsPePsPePsPePsPePsPePsPePsPePo2Ps
   PePo4Pc3Po3CnPo4PdPsPePsPePsPePo3SmPdSm3CnPoScPo2Cn4Lo5CnLo87Cn2CfCnPo3ScPo3PsPePoSmPoPdPo2Nda
   Po2Sm3Po2Lu1aPsPoPeSkPcSkLl1aPsSmPeSmPsPePoPsPePo2LoaLmLo2dLm2Lo1fCn3Lo6Cn2Lo6Cn2Lo6Cn2Lo3Cn3
   Sc2SmSkSoSc2CnSoSm4So2CnaCf3So2Cn2LocCnLo1aCnLo13CnLo2CnLofCn2LoeCn22Lo7bCn5Po3Cn4No2dCn3So9
   Nl35No4So11No2So3CnSodCn3SoCn2fSo2dMnCn82Lo1dCn3Lo31CnfMnNo1bCn4Lo20No4Cn9Lo14NlLo8NlCn5Lo26
   Mn5Cn5Lo1eCnPoLo24Cn4Lo8PoNl5Cn2aLu28Ll28Lo4eCn2NdaCn6Lu24Cn4Ll24Cn4Lo28Cn8Lo34CnbPoLubCnLufCn
   Lu7CnLu2CnLlbCnLlfCnLl7CnLl2Cn3Lo34CncLo137Cn9Lo16CnaLo8Cn18Lm6CnLm2aCnLm9Cn45Lo6Cn2LoCnLo2cCn
   Lo2Cn3LoCn2Lo17CnPoNo8Lo17So2No7Lo1fCn8No9Cn30Lo13CnLo2Cn5No5Lo16No6Cn3PoLo1aCn5PoCn40Lo38Cn4
   No2Lo2No10Cn2No2eLoMn3CnMn2Cn5Mn4Lo4CnLo3CnLo1dCn2Mn3Cn4MnNo9Cn7Po9Cn7Lo1dNo2PoLo1dNo3Cn20Lo8
   SoLo1cMn2Cn4No5Po7Cn9Lo36Cn3Po7Lo16Cn2No8Lo13Cn5No8Lo12Cn7Po4CncNo7Cn50Lo49Cn37Lu33CndLl33Cn7
   No6Lo24Mn4Cn8NdaCn6NdaLo4LmLoLu16Cn3Mn5PdLmLl16Cn8Sm2Cnd0No1fCnLo2aCnMn2PdCn2Lo2Cn10Lo3Cn37Mn4
   Lo1dNoaLoCn8Lo16MnbNo4Po5Cn16Lo12Mn4Po4Cn26Lo15No7Cn14Lo17Cn9McMnMcLo35MnfPo7Cn4No14NdaMnLo2
   Mn2LoCn9Mn3McLo2dMc3Mn4Mc2Mn2Po2CfPo4MnCnaCfCn2Lo19Cn7NdaCn6Mn3Lo24Mn5McMn8CnNdaPo4LoMc2LoCn8
   Lo23MnPo2LoCn9Mn2McLo30Mc3Mn9Mc2Lo4Po4Mn4PoMcMnNdaLoPoLoPo3CnNo14CnbLo12CnLo19Mc3Mn3Mc2MnMcMn2
   Po6MnLo2MnCn3eLo7CnLoCnLo4CnLofCnLoaPoCn6Lo2fMnMc3Mn8Cn5NdaCn6Mn2Mc2CnLo8Cn2Lo2Cn2Lo16CnLo7Cn
   Lo2CnLo5CnMn2LoMc2MnMc4Cn2Mc2Cn2Mc3Cn2LoCn6McCn5Lo5Mc2Cn2Mn7Cn3Mn5CnbLoaCnLoCn2LoCnLo26CnLoMc3
   Mn6CnMcCn2McCnMc4CnMc2MnMcMnLoMnLoPo2CnPo2Cn8Mn2Cn1dLo35Mc3Mn8Mc2Mn3McMnLo4Po5NdaPo2CnPoMnLo3
   Cn1eLo30Mc3Mn6McMnMc4Mn2McMn2Lo2PoLoCn8NdaCna6Lo2fMc3Mn4Cn2Mc4Mn2McMn2Po17Lo4Mn2Cn22Lo30Mc3Mn8
   Mc2MnMcMn2Po3LoCnbNdaCn6PodCn13Lo2bMnMcMnMc2Mn6McMnLoPoCn6NdaCn6Nd14Cn1cLo1bCn2Mn3Mc2Mn4McMn5
   Cn4NdaNo2Po3SoLo7Cnb9Lo2cMc3Mn9McMn2PoCn64Lu20Ll20NdaNo9CncLo8Cn2LoCn2Lo8CnLo2CnLo18Mc6CnMc2
   Cn2Mn2McMnLoMcLoMcMnPo3Cn9NdaCn46Lo8Cn2Lo27Mc3Mn4Cn2Mn2Mc4MnLoPoLoMcCn1bLoMnaLo28Mn6McLoMn4Po8
   MnCn8LoMn6Mc2Mn3Lo2eMndMcMn2Po3LoPo5CndLo49Cn7PoaCnb6Lo21PoCneNdaCn6Lo9CnLo25McMn7CnMn6McMnLo
   Po5CnaNdaNo13Cn3Po2Lo1eCn2Mn16CnMcMn7McMn2McMn2Cn49Lo7CnLo2CnLo26Mn6Cn3MnCnMn2CnMn7LoMnCn8Nda
   Cn6Lo6CnLo2CnLo20Mc5CnMn2CnMc2MnMcMnLoCn7NdaCn136Lo13Mn2Mc2Po2Cn7Mn2LoMcLodCnLo22Mc2Mn5Cn3Mc2
   MnMcMnPodNdaMnCn55LoCnfNo15So8Sc4So11CndPoLo39aCn66Nl6fCnPo5CnbLoc4Cna4cLo61Po2CndLo430Cf10Mn
   Lo6MnfCnaLof9bCn5Lo247Cn1ab9Lo1eMncMc3Mn3NdaCn6c6Lo239Cn7Lo1fCnNdaCn4Po2Lo4fCnNdaCn6Lo1eCn2Mn5
   PoCnaLo30Mn7Po5So4Lm4PoSoCnaNdaCnNo7CnLo15Cn5Lo13Cn1b0Lm3Lo28Lm2Po3NdaCnc6Lu20Ll20No17Po4Cn65
   Lo4bCn4MnLoMc37Cn7Mn4LmdCn40Lm2PoLmMnCnbMc2CneLo17f8Cn8Lo4d6Cn29LoaCn22e7Lm4CnLm7CnLm2CnLo123
   CnfLoCn1dLo3Cn2LoCneLo4Cn8Lo18cCn904Lo6bCn5LodCn3Lo9Cn7LoaCn2SoMn2PoCf4Cnf5cSof0NdaCn6So1b4
   Cn4cMn2eCn2Mn17Cn9So74Cn3cSof6CnaSo27Cn2So3cMc2Mn3So3Mc6Cf8Mn8So2Mn7So1eMn4So3dCn15So42Mn3So
   Cn7aNo14CncNo14CncSo57Cn9No19Cn87Lu1aLl1aLu1aLl7CnLl12Lu1aLl1aLuCnLu2Cn2LuCn2Lu2Cn2Lu4CnLu8Ll4
   CnLlCnLl7CnLlbLu1aLl1aLu2CnLu4Cn2Lu8CnLu7CnLl1aLu2CnLu4CnLu5CnLuCn3Lu7CnLl1aLu1aLl1aLu1aLl1a
   Lu1aLl1aLu1aLl1aLu1aLl1aLu1aLl1cCn2Lu19SmLl19SmLl6Lu19SmLl19SmLl6Lu19SmLl19SmLl6Lu19SmLl19Sm
   Ll6Lu19SmLl19SmLl6LuLlCn2Nd32So200Mn37So4Mn32So8MnSoeMnSo2Po5CnfMn5CnMnfCn450LlaLoLl14Cn6Ll6
   Cnd5Mn7CnMn11Cn2Mn7CnMn2CnMn5Cn5Lm3eCn21MnCn70Lo2dCn3Mn7Lm7Cn2NdaCn4LoSoCn140Lo1eMnCn11Lo2cMn4
   NdaCn5ScCn1d0Lo1bLmMn4NdaCnd6Lo1eMn2LoNdaCn4PoCn1e0Lo7CnLo4CnLo2CnLofCnLoc5Cn2No9Mn7Cn29Lu22
   Ll22Mn7LmCn4NdaCn4Po2Cn311No3bSoNo3ScNo4Cn4cNo2dSoNofCnc2Lo4CnLo1bCnLo2CnLoCn2LoCnLoaCnLo4CnLo
   CnLoCn6LoCn4LoCnLoCnLoCnLo3CnLo2CnLoCn2LoCnLoCnLoCnLoCnLoCnLo2CnLoCn2Lo4CnLo7CnLo4CnLo4CnLoCn
   LoaCnLo11Cn5Lo3CnLo5CnLo11Cn34Sm2Cn10eSo2cCn4So64CncSofCn2SofCnSofCnSo25CnaNodSoa1Cn38So1dCnd
   So2cCn4So9Cn7So2CneSo6Cn9aSofbSk5So2d8Cn4So11Cn3SodCn3So77Cn4So5fCn6SocCn4SoCnfSocCn4So38Cn8
   SoaCn6So28Cn8So1eCn2SocCn4So2Cn3eSo154CncSoeCn2SodCn3SoaCn5So38Cn7SofCn2SobCn6So9Cn7So93CnSo5c
   NdaCn406Loa6e0Cn20Lo103aCn6LodeCn2Lo1682CneLo1d31CnfLo26eCn9a2Lo21eCn5e2Lo134bCn5Lo1060Cnadc51
   CfCn1eCf60Cn80Mnf0Cnfe10CofffeCn2CofffeCn2"

/-- What has been read of a text of runs: the run in progress and the finished ones. -/
structure CategoryReader where
  /-- First code points of the finished runs. -/
  starts : Array Nat
  /-- Categories of the finished runs. -/
  categories : Array Category
  /-- The code point after the finished runs. -/
  next : Nat
  /-- The letters of the run in progress. -/
  letters : List Char
  /-- The length of the run in progress, when it is written. -/
  length : Option Nat

namespace CategoryReader

/-- The reader with its run in progress finished. -/
def finish (reader : CategoryReader) : CategoryReader :=
  match Category.ofAbbreviation? (String.ofList reader.letters) with
  | none => reader
  | some category =>
    { starts := reader.starts.push reader.next
      categories := reader.categories.push category
      next := reader.next + reader.length.getD 1
      letters := []
      length := none }

/-- Read one more character of a text of runs. -/
def step (reader : CategoryReader) (c : Char) : CategoryReader :=
  if isBlank c then reader
  else if c.isUpper then { reader.finish with letters := [c] }
  else match reader.letters with
    | [first] => { reader with letters := [first, c] }
    | _ => { reader with length := some (reader.length.getD 0 * 16 + hexValue c) }

end CategoryReader

/-- The runs of the category table, read once. -/
def categoryTable : CategoryReader :=
  (categoryRuns.toList.foldl CategoryReader.step ⟨#[], #[], 0, [], none⟩).finish

/-- The general category of a code point. -/
def categoryOfCode (code : Nat) : Category :=
  (categoryTable.categories[countAtMost categoryTable.starts code - 1]?).getD .unassigned

/-- The general category of a character. -/
def category (c : Char) : Category := categoryOfCode c.toNat

end DecisionFlow.Text
