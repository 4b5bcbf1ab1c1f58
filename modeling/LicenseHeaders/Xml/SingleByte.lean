/-!
# Encodings with one byte per character

Encodings whose lower half is ASCII and whose upper half is a script of its own. `UpperHalf` says
what the bytes from 0x80 on stand for, and `singleByteNames` finds it by the names of the encoding.
The names of the other encodings are listed by what becomes of a document in them.
-/

set_option autoImplicit false
set_option relaxedAutoImplicit false

namespace LicenseHeaders.Xml

/-- The character that marks a byte that stands for nothing. -/
def undefinedMark : Char := '\uFFFE'

/-- What the bytes from 0x80 on stand for, one character for each of them. -/
structure UpperHalf where
  characters : String
deriving DecidableEq, Repr

/-- The character that a byte stands for. -/
def UpperHalf.char? (upperHalf : UpperHalf) (byte : UInt8) : Option Char :=
  if byte < 0x80 then some (Char.ofNat byte.toNat)
  else upperHalf.characters.toList[byte.toNat - 0x80]?.filter (· ≠ undefinedMark)

/-- The control characters that many upper halves start with. -/
def controls : String :=
  "\u0080\u0081\u0082\u0083\u0084\u0085\u0086\u0087\u0088\u0089\u008A\u008B\u008C\u008D\u008E" ++
    "\u008F\u0090\u0091\u0092\u0093\u0094\u0095\u0096\u0097\u0098\u0099\u009A\u009B\u009C\u009D" ++
    "\u009E\u009F"

/-- Central European Windows. -/
def windows1250 : UpperHalf where
  characters :=
    "€\uFFFE‚\uFFFE„…†‡\uFFFE‰Š‹ŚŤŽŹ\uFFFE‘’“”•–—\uFFFE™š›śťžź\u00A0ˇ˘Ł¤Ą¦§¨©Ş«¬\u00AD®Ż°±˛ł´µ" ++
      "¶·¸ąş»Ľ˝ľżŔÁÂĂÄĹĆÇČÉĘËĚÍÎĎĐŃŇÓÔŐÖ×ŘŮÚŰÜÝŢßŕáâăäĺćçčéęëěíîďđńňóôőö÷řůúűüýţ˙"

/-- Cyrillic Windows. -/
def windows1251 : UpperHalf where
  characters :=
    "ЂЃ‚ѓ„…†‡€‰Љ‹ЊЌЋЏђ‘’“”•–—\uFFFE™љ›њќћџ\u00A0ЎўЈ¤Ґ¦§Ё©Є«¬\u00AD®Ї°±Ііґµ¶·ё№є»јЅѕїАБВГДЕЖЗИЙ" ++
      "КЛМНОПРСТУФХЦЧШЩЪЫЬЭЮЯабвгдежзийклмнопрстуфхцчшщъыьэюя"

/-- Western Windows. -/
def windows1252 : UpperHalf where
  characters :=
    "€\uFFFE‚ƒ„…†‡ˆ‰Š‹Œ\uFFFEŽ\uFFFE\uFFFE‘’“”•–—˜™š›œ\uFFFEžŸ\u00A0¡¢£¤¥¦§¨©ª«¬\u00AD®¯°±²³´µ" ++
      "¶·¸¹º»¼½¾¿ÀÁÂÃÄÅÆÇÈÉÊËÌÍÎÏÐÑÒÓÔÕÖ×ØÙÚÛÜÝÞßàáâãäåæçèéêëìíîïðñòóôõö÷øùúûüýþÿ"

/-- Greek Windows. -/
def windows1253 : UpperHalf where
  characters :=
    "€\uFFFE‚ƒ„…†‡\uFFFE‰\uFFFE‹\uFFFE\uFFFE\uFFFE\uFFFE\uFFFE‘’“”•–—\uFFFE™\uFFFE›\uFFFE" ++
      "\uFFFE\uFFFE\uFFFE\u00A0΅Ά£¤¥¦§¨©\uFFFE«¬\u00AD®―°±²³΄µ¶·ΈΉΊ»Ό½ΎΏΐΑΒΓΔΕΖΗΘΙΚΛΜΝΞΟΠΡ\uFFFE" ++
      "ΣΤΥΦΧΨΩΪΫάέήίΰαβγδεζηθικλμνξοπρςστυφχψωϊϋόύώ\uFFFE"

/-- Turkish Windows. -/
def windows1254 : UpperHalf where
  characters :=
    "€\uFFFE‚ƒ„…†‡ˆ‰Š‹Œ\uFFFE\uFFFE\uFFFE\uFFFE‘’“”•–—˜™š›œ\uFFFE\uFFFEŸ\u00A0¡¢£¤¥¦§¨©ª«¬" ++
      "\u00AD®¯°±²³´µ¶·¸¹º»¼½¾¿ÀÁÂÃÄÅÆÇÈÉÊËÌÍÎÏĞÑÒÓÔÕÖ×ØÙÚÛÜİŞßàáâãäåæçèéêëìíîïğñòóôõö÷øùúûüışÿ"

/-- Hebrew Windows. -/
def windows1255 : UpperHalf where
  characters :=
    "€\uFFFE‚ƒ„…†‡ˆ‰\uFFFE‹\uFFFE\uFFFE\uFFFE\uFFFE\uFFFE‘’“”•–—˜™\uFFFE›\uFFFE\uFFFE\uFFFE" ++
      "\uFFFE\u00A0¡¢£₪¥¦§¨©×«¬\u00AD®¯°±²³´µ¶·¸¹÷»¼½¾¿\u05B0\u05B1\u05B2\u05B3\u05B4\u05B5" ++
      "\u05B6\u05B7\u05B8\u05B9\uFFFE\u05BB\u05BC\u05BD\u05BE\u05BF\u05C0\u05C1\u05C2\u05C3" ++
      "\u05F0\u05F1\u05F2\u05F3\u05F4\uFFFE\uFFFE\uFFFE\uFFFE\uFFFE\uFFFE\uFFFE\u05D0\u05D1" ++
      "\u05D2\u05D3\u05D4\u05D5\u05D6\u05D7\u05D8\u05D9\u05DA\u05DB\u05DC\u05DD\u05DE\u05DF" ++
      "\u05E0\u05E1\u05E2\u05E3\u05E4\u05E5\u05E6\u05E7\u05E8\u05E9\u05EA\uFFFE\uFFFE\u200E" ++
      "\u200F\uFFFE"

/-- Arabic Windows. -/
def windows1256 : UpperHalf where
  characters :=
    "€\u067E‚ƒ„…†‡ˆ‰\u0679‹Œ\u0686\u0698\u0688\u06AF‘’“”•–—\u06A9™\u0691›œ\u200C\u200D\u06BA" ++
      "\u00A0،¢£¤¥¦§¨©\u06BE«¬\u00AD®¯°±²³´µ¶·¸¹\u061B»¼½¾\u061F\u06C1\u0621\u0622\u0623\u0624" ++
      "\u0625\u0626\u0627\u0628\u0629\u062A\u062B\u062C\u062D\u062E\u062F\u0630\u0631\u0632" ++
      "\u0633\u0634\u0635\u0636×\u0637\u0638\u0639\u063A\u0640\u0641\u0642\u0643à\u0644â\u0645" ++
      "\u0646\u0647\u0648çèéêë\u0649\u064Aîï\u064B\u064C\u064D\u064Eô\u064F\u0650÷\u0651ù\u0652û" ++
      "ü\u200E\u200F\u06D2"

/-- Baltic Windows. -/
def windows1257 : UpperHalf where
  characters :=
    "€\uFFFE‚\uFFFE„…†‡\uFFFE‰\uFFFE‹\uFFFE¨ˇ¸\uFFFE‘’“”•–—\uFFFE™\uFFFE›\uFFFE¯˛\uFFFE\u00A0" ++
      "\uFFFE¢£¤\uFFFE¦§Ø©Ŗ«¬\u00AD®Æ°±²³´µ¶·ø¹ŗ»¼½¾æĄĮĀĆÄÅĘĒČÉŹĖĢĶĪĻŠŃŅÓŌÕÖ×ŲŁŚŪÜŻŽßąįāćäåęēčéź" ++
      "ėģķīļšńņóōõö÷ųłśūüżž˙"

/-- Vietnamese Windows. -/
def windows1258 : UpperHalf where
  characters :=
    "€\uFFFE‚ƒ„…†‡ˆ‰\uFFFE‹Œ\uFFFE\uFFFE\uFFFE\uFFFE‘’“”•–—˜™\uFFFE›œ\uFFFE\uFFFEŸ\u00A0¡¢£¤¥¦" ++
      "§¨©ª«¬\u00AD®¯°±²³´µ¶·¸¹º»¼½¾¿ÀÁÂĂÄÅÆÇÈÉÊË\u0300ÍÎÏĐÑ\u0309ÓÔƠÖ×ØÙÚÛÜƯ\u0303ßàáâăäåæçèéêë" ++
      "\u0301íîïđñ\u0323óôơö÷øùúûüư₫ÿ"

/-- Thai Windows. -/
def windows874 : UpperHalf where
  characters :=
    "€\uFFFE\uFFFE\uFFFE\uFFFE…\uFFFE\uFFFE\uFFFE\uFFFE\uFFFE\uFFFE\uFFFE\uFFFE\uFFFE\uFFFE" ++
      "\uFFFE‘’“”•–—\uFFFE\uFFFE\uFFFE\uFFFE\uFFFE\uFFFE\uFFFE\uFFFE\u00A0กขฃคฅฆงจฉชซฌญฎฏฐฑฒณดตถ" ++
      "ทธนบปผฝพฟภมยรฤลฦวศษสหฬอฮฯะ\u0E31าำ\u0E34\u0E35\u0E36\u0E37\u0E38\u0E39\u0E3A\uFFFE\uFFFE" ++
      "\uFFFE\uFFFE฿เแโใไๅๆ\u0E47\u0E48\u0E49\u0E4A\u0E4B\u0E4C\u0E4D\u0E4E๏๐๑๒๓๔๕๖๗๘๙๚๛\uFFFE" ++
      "\uFFFE\uFFFE\uFFFE"

/-- Central European part 2 of the standard of eight-bit characters. -/
def latinPart2 : UpperHalf where
  characters :=
    controls ++
      "\u00A0Ą˘Ł¤ĽŚ§¨ŠŞŤŹ\u00ADŽŻ°ą˛ł´ľśˇ¸šşťź˝žżŔÁÂĂÄĹĆÇČÉĘËĚÍÎĎĐŃŇÓÔŐÖ×ŘŮÚŰÜÝŢßŕáâăäĺćçčéęëěíî" ++
      "ďđńňóôőö÷řůúűüýţ˙"

/-- South European part 3 of the standard of eight-bit characters. -/
def latinPart3 : UpperHalf where
  characters :=
    controls ++
      "\u00A0Ħ˘£¤\uFFFEĤ§¨İŞĞĴ\u00AD\uFFFEŻ°ħ²³´µĥ·¸ışğĵ½\uFFFEżÀÁÂ\uFFFEÄĊĈÇÈÉÊËÌÍÎÏ\uFFFEÑÒÓÔĠ" ++
      "Ö×ĜÙÚÛÜŬŜßàáâ\uFFFEäċĉçèéêëìíîï\uFFFEñòóôġö÷ĝùúûüŭŝ˙"

/-- North European part 4 of the standard of eight-bit characters. -/
def latinPart4 : UpperHalf where
  characters :=
    controls ++
      "\u00A0ĄĸŖ¤ĨĻ§¨ŠĒĢŦ\u00ADŽ¯°ą˛ŗ´ĩļˇ¸šēģŧŊžŋĀÁÂÃÄÅÆĮČÉĘËĖÍÎĪĐŅŌĶÔÕÖ×ØŲÚÛÜŨŪßāáâãäåæįčéęëėíî" ++
      "īđņōķôõö÷øųúûüũū˙"

/-- Cyrillic part 5 of the standard of eight-bit characters. -/
def latinPart5 : UpperHalf where
  characters :=
    controls ++
      "\u00A0ЁЂЃЄЅІЇЈЉЊЋЌ\u00ADЎЏАБВГДЕЖЗИЙКЛМНОПРСТУФХЦЧШЩЪЫЬЭЮЯабвгдежзийклмнопрстуфхцчшщъыьэю" ++
      "я№ёђѓєѕіїјљњћќ§ўџ"

/-- Arabic part 6 of the standard of eight-bit characters. -/
def latinPart6 : UpperHalf where
  characters :=
    controls ++
      "\u00A0\uFFFE\uFFFE\uFFFE¤\uFFFE\uFFFE\uFFFE\uFFFE\uFFFE\uFFFE\uFFFE،\u00AD\uFFFE\uFFFE" ++
      "\uFFFE\uFFFE\uFFFE\uFFFE\uFFFE\uFFFE\uFFFE\uFFFE\uFFFE\uFFFE\uFFFE\u061B\uFFFE\uFFFE" ++
      "\uFFFE\u061F\uFFFE\u0621\u0622\u0623\u0624\u0625\u0626\u0627\u0628\u0629\u062A\u062B" ++
      "\u062C\u062D\u062E\u062F\u0630\u0631\u0632\u0633\u0634\u0635\u0636\u0637\u0638\u0639" ++
      "\u063A\uFFFE\uFFFE\uFFFE\uFFFE\uFFFE\u0640\u0641\u0642\u0643\u0644\u0645\u0646\u0647" ++
      "\u0648\u0649\u064A\u064B\u064C\u064D\u064E\u064F\u0650\u0651\u0652\uFFFE\uFFFE\uFFFE" ++
      "\uFFFE\uFFFE\uFFFE\uFFFE\uFFFE\uFFFE\uFFFE\uFFFE\uFFFE\uFFFE"

/-- Greek part 7 of the standard of eight-bit characters. -/
def latinPart7 : UpperHalf where
  characters :=
    controls ++
      "\u00A0‘’£€₯¦§¨©ͺ«¬\u00AD\uFFFE―°±²³΄΅Ά·ΈΉΊ»Ό½ΎΏΐΑΒΓΔΕΖΗΘΙΚΛΜΝΞΟΠΡ\uFFFEΣΤΥΦΧΨΩΪΫάέήίΰαβγδ" ++
      "εζηθικλμνξοπρςστυφχψωϊϋόύώ\uFFFE"

/-- Hebrew part 8 of the standard of eight-bit characters. -/
def latinPart8 : UpperHalf where
  characters :=
    controls ++
      "\u00A0\uFFFE¢£¤¥¦§¨©×«¬\u00AD®¯°±²³´µ¶·¸¹÷»¼½¾\uFFFE\uFFFE\uFFFE\uFFFE\uFFFE\uFFFE\uFFFE" ++
      "\uFFFE\uFFFE\uFFFE\uFFFE\uFFFE\uFFFE\uFFFE\uFFFE\uFFFE\uFFFE\uFFFE\uFFFE\uFFFE\uFFFE" ++
      "\uFFFE\uFFFE\uFFFE\uFFFE\uFFFE\uFFFE\uFFFE\uFFFE\uFFFE\uFFFE\uFFFE‗\u05D0\u05D1\u05D2" ++
      "\u05D3\u05D4\u05D5\u05D6\u05D7\u05D8\u05D9\u05DA\u05DB\u05DC\u05DD\u05DE\u05DF\u05E0" ++
      "\u05E1\u05E2\u05E3\u05E4\u05E5\u05E6\u05E7\u05E8\u05E9\u05EA\uFFFE\uFFFE\u200E\u200F" ++
      "\uFFFE"

/-- Turkish part 9 of the standard of eight-bit characters. -/
def latinPart9 : UpperHalf where
  characters :=
    controls ++
      "\u00A0¡¢£¤¥¦§¨©ª«¬\u00AD®¯°±²³´µ¶·¸¹º»¼½¾¿ÀÁÂÃÄÅÆÇÈÉÊËÌÍÎÏĞÑÒÓÔÕÖ×ØÙÚÛÜİŞßàáâãäåæçèéêëìíî" ++
      "ïğñòóôõö÷øùúûüışÿ"

/-- Nordic part 10 of the standard of eight-bit characters. -/
def latinPart10 : UpperHalf where
  characters :=
    controls ++
      "\u00A0ĄĒĢĪĨĶ§ĻĐŠŦŽ\u00ADŪŊ°ąēģīĩķ·ļđšŧž―ūŋĀÁÂÃÄÅÆĮČÉĘËĖÍÎÏÐŅŌÓÔÕÖŨØŲÚÛÜÝÞßāáâãäåæįčéęëėíî" ++
      "ïðņōóôõöũøųúûüýþĸ"

/-- Thai part 11 of the standard of eight-bit characters. -/
def latinPart11 : UpperHalf where
  characters :=
    controls ++
      "\u00A0กขฃคฅฆงจฉชซฌญฎฏฐฑฒณดตถทธนบปผฝพฟภมยรฤลฦวศษสหฬอฮฯะ\u0E31าำ\u0E34\u0E35\u0E36\u0E37" ++
      "\u0E38\u0E39\u0E3A\uFFFE\uFFFE\uFFFE\uFFFE฿เแโใไๅๆ\u0E47\u0E48\u0E49\u0E4A\u0E4B\u0E4C" ++
      "\u0E4D\u0E4E๏๐๑๒๓๔๕๖๗๘๙๚๛\uFFFE\uFFFE\uFFFE\uFFFE"

/-- Baltic part 13 of the standard of eight-bit characters. -/
def latinPart13 : UpperHalf where
  characters :=
    controls ++
      "\u00A0”¢£¤„¦§Ø©Ŗ«¬\u00AD®Æ°±²³“µ¶·ø¹ŗ»¼½¾æĄĮĀĆÄÅĘĒČÉŹĖĢĶĪĻŠŃŅÓŌÕÖ×ŲŁŚŪÜŻŽßąįāćäåęēčéźėģķī" ++
      "ļšńņóōõö÷ųłśūüżž’"

/-- Celtic part 14 of the standard of eight-bit characters. -/
def latinPart14 : UpperHalf where
  characters :=
    controls ++
      "\u00A0Ḃḃ£ĊċḊ§Ẁ©ẂḋỲ\u00AD®ŸḞḟĠġṀṁ¶ṖẁṗẃṠỳẄẅṡÀÁÂÃÄÅÆÇÈÉÊËÌÍÎÏŴÑÒÓÔÕÖṪØÙÚÛÜÝŶßàáâãäåæçèéêëìíî" ++
      "ïŵñòóôõöṫøùúûüýŷÿ"

/-- Revised Western part 15 of the standard of eight-bit characters. -/
def latinPart15 : UpperHalf where
  characters :=
    controls ++
      "\u00A0¡¢£€¥Š§š©ª«¬\u00AD®¯°±²³Žµ¶·ž¹º»ŒœŸ¿ÀÁÂÃÄÅÆÇÈÉÊËÌÍÎÏÐÑÒÓÔÕÖ×ØÙÚÛÜÝÞßàáâãäåæçèéêëìíî" ++
      "ïðñòóôõö÷øùúûüýþÿ"

/-- Romanian part 16 of the standard of eight-bit characters. -/
def latinPart16 : UpperHalf where
  characters :=
    controls ++
      "\u00A0ĄąŁ€„Š§š©Ș«Ź\u00ADźŻ°±ČłŽ”¶·žčș»ŒœŸżÀÁÂĂÄĆÆÇÈÉÊËÌÍÎÏĐŃÒÓÔŐÖŚŰÙÚÛÜĘȚßàáâăäćæçèéêëìíî" ++
      "ïđńòóôőöśűùúûüęțÿ"

/-- The Thai industrial standard. -/
def thai620 : UpperHalf where
  characters :=
    controls ++
      "\uFFFEกขฃคฅฆงจฉชซฌญฎฏฐฑฒณดตถทธนบปผฝพฟภมยรฤลฦวศษสหฬอฮฯะ\u0E31าำ\u0E34\u0E35\u0E36\u0E37" ++
      "\u0E38\u0E39\u0E3A\uFFFE\uFFFE\uFFFE\uFFFE฿เแโใไๅๆ\u0E47\u0E48\u0E49\u0E4A\u0E4B\u0E4C" ++
      "\u0E4D\u0E4E๏๐๑๒๓๔๕๖๗๘๙๚๛\uFFFE\uFFFE\uFFFE\uFFFE"

/-- Russian KOI8. -/
def koi8Russian : UpperHalf where
  characters :=
    "─│┌┐└┘├┤┬┴┼▀▄█▌▐░▒▓⌠■∙√≈≤≥\u00A0⌡°²·÷═║╒ё╓╔╕╖╗╘╙╚╛╜╝╞╟╠╡Ё╢╣╤╥╦╧╨╩╪╫╬©юабцдефгхийклмнопярс" ++
      "тужвьызшэщчъЮАБЦДЕФГХИЙКЛМНОПЯРСТУЖВЬЫЗШЭЩЧЪ"

/-- Ukrainian KOI8. -/
def koi8Ukrainian : UpperHalf where
  characters :=
    "─│┌┐└┘├┤┬┴┼▀▄█▌▐░▒▓⌠■∙√≈≤≥\u00A0⌡°²·÷═║╒ёє╔ії╗╘╙╚╛ґ╝╞╟╠╡ЁЄ╣ІЇ╦╧╨╩╪Ґ╬©юабцдефгхийклмнопярс" ++
      "тужвьызшэщчъЮАБЦДЕФГХИЙКЛМНОПЯРСТУЖВЬЫЗШЭЩЧЪ"

/-- Tajik KOI8. -/
def koi8Tajik : UpperHalf where
  characters :=
    "қғ‚Ғ„…†‡\uFFFE‰ҳ‹ҲҷҶ\uFFFEҚ‘’“”•–—\uFFFE™\uFFFE›\uFFFE\uFFFE\uFFFE\uFFFE\uFFFEӯӮё¤ӣ¦§" ++
      "\uFFFE\uFFFE\uFFFE«¬\u00AD®\uFFFE°±²Ё\uFFFEӢ¶·\uFFFE№\uFFFE»\uFFFE\uFFFE\uFFFE©юабцдефгхи" ++
      "йклмнопярстужвьызшэщчъЮАБЦДЕФГХИЙКЛМНОПЯРСТУЖВЬЫЗШЭЩЧЪ"

/-- The Kazakh standard. -/
def kazakh1048 : UpperHalf where
  characters :=
    "ЂЃ‚ѓ„…†‡€‰Љ‹ЊҚҺЏђ‘’“”•–—\uFFFE™љ›њқһџ\u00A0ҰұӘ¤Ө¦§Ё©Ғ«¬\u00AD®Ү°±Ііөµ¶·ё№ғ»әҢңүАБВГДЕЖЗИЙ" ++
      "КЛМНОПРСТУФХЦЧШЩЪЫЬЭЮЯабвгдежзийклмнопрстуфхцчшщъыьэюя"

/-- Asian Cyrillic. -/
def asianCyrillic : UpperHalf where
  characters :=
    "ҖҒӮғ„…ҶҮҲүҠӢҢҚҺҸҗ‘’“”•–—ҳҷҡӣңқһҹ\u00A0ЎўЈӨҘҰ§Ё©Ә«¬ӯ®Ҝ°ұІіҙө¶·ё№ә»јҪҫҝАБВГДЕЖЗИЙКЛМНОПРСТУ" ++
      "ФХЦЧШЩЪЫЬЭЮЯабвгдежзийклмнопрстуфхцчшщъыьэюя"

/-- Western Macintosh. -/
def macintosh : UpperHalf where
  characters :=
    "ÄÅÇÉÑÖÜáàâäãåçéèêëíìîïñóòôöõúùûü†°¢£§•¶ß®©™´¨≠ÆØ∞±≤≥¥µ∂∑∏π∫ªºΩæø¿¡¬√ƒ≈∆«»…\u00A0ÀÃÕŒœ–—“”" ++
      "‘’÷◊ÿŸ⁄€‹›ﬁﬂ‡·‚„‰ÂÊÁËÈÍÎÏÌÓÔ\uF8FFÒÚÛÙıˆ˜¯˘˙˚¸˝˛ˇ"

/-- Central European Macintosh. -/
def macintoshLatin2 : UpperHalf where
  characters :=
    "ÄĀāÉĄÖÜáąČäčĆćéŹźĎíďĒēĖóėôöõúĚěü†°Ę£§•¶ß®©™ę¨≠ģĮįĪ≤≥īĶ∂∑łĻļĽľĹĺŅņŃ¬√ńŇ∆«»…\u00A0ňŐÕőŌ–—“”" ++
      "‘’÷◊ōŔŕŘ‹›řŖŗŠ‚„šŚśÁŤťÍŽžŪÓÔūŮÚůŰűŲųÝýķŻŁżĢˇ"

/-- Croatian Macintosh. -/
def macintoshCroatian : UpperHalf where
  characters :=
    "ÄÅÇÉÑÖÜáàâäãåçéèêëíìîïñóòôöõúùûü†°¢£§•¶ß®Š™´¨≠ŽØ∞±≤≥∆µ∂∑∏š∫ªºΩžø¿¡¬√ƒ≈Ć«Č…\u00A0ÀÃÕŒœĐ—“”" ++
      "‘’÷◊\uF8FF©⁄€‹›Æ»–·‚„‰ÂćÁčÈÍÎÏÌÓÔđÒÚÛÙıˆ˜¯πË˚¸Êæˇ"

/-- Cyrillic Macintosh. -/
def macintoshCyrillic : UpperHalf where
  characters :=
    "АБВГДЕЖЗИЙКЛМНОПРСТУФХЦЧШЩЪЫЬЭЮЯ†°Ґ£§•¶І®©™Ђђ≠Ѓѓ∞±≤≥іµґЈЄєЇїЉљЊњјЅ¬√ƒ≈∆«»…\u00A0ЋћЌќѕ–—“”" ++
      "‘’÷„ЎўЏџ№Ёёяабвгдежзийклмнопрстуфхцчшщъыьэю€"

/-- Greek Macintosh. -/
def macintoshGreek : UpperHalf where
  characters :=
    "Ä¹²É³ÖÜ΅àâä΄¨çéèêë£™îï•½‰ôö¦€ùûü†ΓΔΘΛΞΠß®©ΣΪ§≠°·Α±≤≥¥ΒΕΖΗΙΚΜΦΫΨΩάΝ¬ΟΡ≈Τ«»…\u00A0ΥΧΆΈœ–―“”" ++
      "‘’÷ΉΊΌΎέήίόΏύαβψδεφγηιξκλμνοπώρστθωςχυζϊϋΐΰ\u00AD"

/-- Icelandic Macintosh. -/
def macintoshIcelandic : UpperHalf where
  characters :=
    "ÄÅÇÉÑÖÜáàâäãåçéèêëíìîïñóòôöõúùûüÝ°¢£§•¶ß®©™´¨≠ÆØ∞±≤≥¥µ∂∑∏π∫ªºΩæø¿¡¬√ƒ≈∆«»…\u00A0ÀÃÕŒœ–—“”" ++
      "‘’÷◊ÿŸ⁄€ÐðÞþý·‚„‰ÂÊÁËÈÍÎÏÌÓÔ\uF8FFÒÚÛÙıˆ˜¯˘˙˚¸˝˛ˇ"

/-- Romanian Macintosh. -/
def macintoshRomanian : UpperHalf where
  characters :=
    "ÄÅÇÉÑÖÜáàâäãåçéèêëíìîïñóòôöõúùûü†°¢£§•¶ß®©™´¨≠ĂȘ∞±≤≥¥µ∂∑∏π∫ªºΩăș¿¡¬√ƒ≈∆«»…\u00A0ÀÃÕŒœ–—“”" ++
      "‘’÷◊ÿŸ⁄€‹›Țț‡·‚„‰ÂÊÁËÈÍÎÏÌÓÔ\uF8FFÒÚÛÙıˆ˜¯˘˙˚¸˝˛ˇ"

/-- Turkish Macintosh. -/
def macintoshTurkish : UpperHalf where
  characters :=
    "ÄÅÇÉÑÖÜáàâäãåçéèêëíìîïñóòôöõúùûü†°¢£§•¶ß®©™´¨≠ÆØ∞±≤≥¥µ∂∑∏π∫ªºΩæø¿¡¬√ƒ≈∆«»…\u00A0ÀÃÕŒœ–—“”" ++
      "‘’÷◊ÿŸĞğİıŞş‡·‚„‰ÂÊÁËÈÍÎÏÌÓÔ\uF8FFÒÚÛÙ\uF8A0ˆ˜¯˘˙˚¸˝˛ˇ"

/-- American DOS. -/
def dos437 : UpperHalf where
  characters :=
    "ÇüéâäàåçêëèïîìÄÅÉæÆôöòûùÿÖÜ¢£¥₧ƒáíóúñÑªº¿⌐¬½¼¡«»░▒▓│┤╡╢╖╕╣║╗╝╜╛┐└┴┬├─┼╞╟╚╔╩╦╠═╬╧╨╤╥╙╘╒╓╫╪" ++
      "┘┌█▄▌▐▀αßΓπΣσµτΦΘΩδ∞φε∩≡±≥≤⌠⌡÷≈°∙·√ⁿ²■\u00A0"

/-- Arabic DOS. -/
def dos720 : UpperHalf where
  characters :=
    "\u0080\u0081éâ\u0084à\u0086çêëèïî\u008D\u008E\u008F\u0090\u0651\u0652ô¤\u0640ûù\u0621" ++
      "\u0622\u0623\u0624£\u0625\u0626\u0627\u0628\u0629\u062A\u062B\u062C\u062D\u062E\u062F" ++
      "\u0630\u0631\u0632\u0633\u0634\u0635«»░▒▓│┤╡╢╖╕╣║╗╝╜╛┐└┴┬├─┼╞╟╚╔╩╦╠═╬╧╨╤╥╙╘╒╓╫╪┘┌█▄▌▐▀" ++
      "\u0636\u0637\u0638\u0639\u063A\u0641µ\u0642\u0643\u0644\u0645\u0646\u0647\u0648\u0649" ++
      "\u064A≡\u064B\u064C\u064D\u064E\u064F\u0650≈°∙·√ⁿ²■\u00A0"

/-- Greek DOS. -/
def dos737 : UpperHalf where
  characters :=
    "ΑΒΓΔΕΖΗΘΙΚΛΜΝΞΟΠΡΣΤΥΦΧΨΩαβγδεζηθικλμνξοπρσςτυφχψ░▒▓│┤╡╢╖╕╣║╗╝╜╛┐└┴┬├─┼╞╟╚╔╩╦╠═╬╧╨╤╥╙╘╒╓╫╪" ++
      "┘┌█▄▌▐▀ωάέήϊίόύϋώΆΈΉΊΌΎΏ±≥≤ΪΫ÷≈°∙·√ⁿ²■\u00A0"

/-- Baltic DOS. -/
def dos775 : UpperHalf where
  characters :=
    "ĆüéāäģåćłēŖŗīŹÄÅÉæÆōöĢ¢ŚśÖÜø£Ø×¤ĀĪóŻżź”¦©®¬½¼Ł«»░▒▓│┤ĄČĘĖ╣║╗╝ĮŠ┐└┴┬├─┼ŲŪ╚╔╩╦╠═╬Žąčęėįšųūž" ++
      "┘┌█▄▌▐▀ÓßŌŃõÕµńĶķĻļņĒŅ’\u00AD±“¾¶§÷„°∙·¹³²■\u00A0"

/-- Western DOS. -/
def dos850 : UpperHalf where
  characters :=
    "ÇüéâäàåçêëèïîìÄÅÉæÆôöòûùÿÖÜø£Ø×ƒáíóúñÑªº¿®¬½¼¡«»░▒▓│┤ÁÂÀ©╣║╗╝¢¥┐└┴┬├─┼ãÃ╚╔╩╦╠═╬¤ðÐÊËÈıÍÎÏ" ++
      "┘┌█▄¦Ì▀ÓßÔÒõÕµþÞÚÛÙýÝ¯´\u00AD±‗¾¶§÷¸°¨·¹³²■\u00A0"

/-- Central European DOS. -/
def dos852 : UpperHalf where
  characters :=
    "ÇüéâäůćçłëŐőîŹÄĆÉĹĺôöĽľŚśÖÜŤťŁ×čáíóúĄąŽžĘę¬źČş«»░▒▓│┤ÁÂĚŞ╣║╗╝Żż┐└┴┬├─┼Ăă╚╔╩╦╠═╬¤đĐĎËďŇÍÎě" ++
      "┘┌█▄ŢŮ▀ÓßÔŃńňŠšŔÚŕŰýÝţ´\u00AD˝˛ˇ˘§÷¸°¨˙űŘř■\u00A0"

/-- Cyrillic DOS of the Balkans. -/
def dos855 : UpperHalf where
  characters :=
    "ђЂѓЃёЁєЄѕЅіІїЇјЈљЉњЊћЋќЌўЎџЏюЮъЪаАбБцЦдДеЕфФгГ«»░▒▓│┤хХиИ╣║╗╝йЙ┐└┴┬├─┼кК╚╔╩╦╠═╬¤лЛмМнНоОп" ++
      "┘┌█▄Пя▀ЯрРсСтТуУжЖвВьЬ№\u00ADыЫзЗшШэЭщЩчЧ§■\u00A0"

/-- Hebrew DOS, revised. -/
def dos856 : UpperHalf where
  characters :=
    "\u05D0\u05D1\u05D2\u05D3\u05D4\u05D5\u05D6\u05D7\u05D8\u05D9\u05DA\u05DB\u05DC\u05DD" ++
      "\u05DE\u05DF\u05E0\u05E1\u05E2\u05E3\u05E4\u05E5\u05E6\u05E7\u05E8\u05E9\u05EA\uFFFE£" ++
      "\uFFFE×\uFFFE\uFFFE\uFFFE\uFFFE\uFFFE\uFFFE\uFFFE\uFFFE\uFFFE\uFFFE®¬½¼\uFFFE«»░▒▓│┤" ++
      "\uFFFE\uFFFE\uFFFE©╣║╗╝¢¥┐└┴┬├─┼\uFFFE\uFFFE╚╔╩╦╠═╬¤\uFFFE\uFFFE\uFFFE\uFFFE\uFFFE\uFFFE" ++
      "\uFFFE\uFFFE\uFFFE┘┌█▄¦\uFFFE▀\uFFFE\uFFFE\uFFFE\uFFFE\uFFFE\uFFFEµ\uFFFE\uFFFE\uFFFE" ++
      "\uFFFE\uFFFE\uFFFE\uFFFE¯´\u00AD±‗¾¶§÷¸°¨·¹³²■\u00A0"

/-- Turkish DOS. -/
def dos857 : UpperHalf where
  characters :=
    "ÇüéâäàåçêëèïîıÄÅÉæÆôöòûùİÖÜø£ØŞşáíóúñÑĞğ¿®¬½¼¡«»░▒▓│┤ÁÂÀ©╣║╗╝¢¥┐└┴┬├─┼ãÃ╚╔╩╦╠═╬¤ºªÊËÈ" ++
      "\uFFFEÍÎÏ┘┌█▄¦Ì▀ÓßÔÒõÕµ\uFFFE×ÚÛÙìÿ¯´\u00AD±\uFFFE¾¶§÷¸°¨·¹³²■\u00A0"

/-- Western DOS with the sign of the euro. -/
def dos858 : UpperHalf where
  characters :=
    "ÇüéâäàåçêëèïîìÄÅÉæÆôöòûùÿÖÜø£Ø×ƒáíóúñÑªº¿®¬½¼¡«»░▒▓│┤ÁÂÀ©╣║╗╝¢¥┐└┴┬├─┼ãÃ╚╔╩╦╠═╬¤ðÐÊËÈ€ÍÎÏ" ++
      "┘┌█▄¦Ì▀ÓßÔÒõÕµþÞÚÛÙýÝ¯´\u00AD±‗¾¶§÷¸°¨·¹³²■\u00A0"

/-- Portuguese DOS. -/
def dos860 : UpperHalf where
  characters :=
    "ÇüéâãàÁçêÊèÍÔìÃÂÉÀÈôõòÚùÌÕÜ¢£Ù₧ÓáíóúñÑªº¿Ò¬½¼¡«»░▒▓│┤╡╢╖╕╣║╗╝╜╛┐└┴┬├─┼╞╟╚╔╩╦╠═╬╧╨╤╥╙╘╒╓╫╪" ++
      "┘┌█▄▌▐▀αßΓπΣσµτΦΘΩδ∞φε∩≡±≥≤⌠⌡÷≈°∙·√ⁿ²■\u00A0"

/-- Icelandic DOS. -/
def dos861 : UpperHalf where
  characters :=
    "ÇüéâäàåçêëèÐðÞÄÅÉæÆôöþûÝýÖÜø£Ø₧ƒáíóúÁÍÓÚ¿⌐¬½¼¡«»░▒▓│┤╡╢╖╕╣║╗╝╜╛┐└┴┬├─┼╞╟╚╔╩╦╠═╬╧╨╤╥╙╘╒╓╫╪" ++
      "┘┌█▄▌▐▀αßΓπΣσµτΦΘΩδ∞φε∩≡±≥≤⌠⌡÷≈°∙·√ⁿ²■\u00A0"

/-- Hebrew DOS. -/
def dos862 : UpperHalf where
  characters :=
    "\u05D0\u05D1\u05D2\u05D3\u05D4\u05D5\u05D6\u05D7\u05D8\u05D9\u05DA\u05DB\u05DC\u05DD" ++
      "\u05DE\u05DF\u05E0\u05E1\u05E2\u05E3\u05E4\u05E5\u05E6\u05E7\u05E8\u05E9\u05EA¢£¥₧ƒáíóúñÑ" ++
      "ªº¿⌐¬½¼¡«»░▒▓│┤╡╢╖╕╣║╗╝╜╛┐└┴┬├─┼╞╟╚╔╩╦╠═╬╧╨╤╥╙╘╒╓╫╪┘┌█▄▌▐▀αßΓπΣσµτΦΘΩδ∞φε∩≡±≥≤⌠⌡÷≈°∙·√ⁿ²■" ++
      "\u00A0"

/-- Canadian DOS. -/
def dos863 : UpperHalf where
  characters :=
    "ÇüéâÂà¶çêëèïî‗À§ÉÈÊôËÏûù¤ÔÜ¢£ÙÛƒ¦´óú¨¸³¯Î⌐¬½¼¾«»░▒▓│┤╡╢╖╕╣║╗╝╜╛┐└┴┬├─┼╞╟╚╔╩╦╠═╬╧╨╤╥╙╘╒╓╫╪" ++
      "┘┌█▄▌▐▀αßΓπΣσµτΦΘΩδ∞φε∩≡±≥≤⌠⌡÷≈°∙·√ⁿ²■\u00A0"

/-- Nordic DOS. -/
def dos865 : UpperHalf where
  characters :=
    "ÇüéâäàåçêëèïîìÄÅÉæÆôöòûùÿÖÜø£Ø₧ƒáíóúñÑªº¿⌐¬½¼¡«¤░▒▓│┤╡╢╖╕╣║╗╝╜╛┐└┴┬├─┼╞╟╚╔╩╦╠═╬╧╨╤╥╙╘╒╓╫╪" ++
      "┘┌█▄▌▐▀αßΓπΣσµτΦΘΩδ∞φε∩≡±≥≤⌠⌡÷≈°∙·√ⁿ²■\u00A0"

/-- Cyrillic DOS. -/
def dos866 : UpperHalf where
  characters :=
    "АБВГДЕЖЗИЙКЛМНОПРСТУФХЦЧШЩЪЫЬЭЮЯабвгдежзийклмноп░▒▓│┤╡╢╖╕╣║╗╝╜╛┐└┴┬├─┼╞╟╚╔╩╦╠═╬╧╨╤╥╙╘╒╓╫╪" ++
      "┘┌█▄▌▐▀рстуфхцчшщъыьэюяЁёЄєЇїЎў°∙·√№¤■\u00A0"

/-- Greek DOS, revised. -/
def dos869 : UpperHalf where
  characters :=
    "\uFFFE\uFFFE\uFFFE\uFFFE\uFFFE\uFFFEΆ\uFFFE·¬¦‘’Έ―ΉΊΪΌ\uFFFE\uFFFEΎΫ©Ώ²³ά£έήίϊΐόύΑΒΓΔΕΖΗ½" ++
      "ΘΙ«»░▒▓│┤ΚΛΜΝ╣║╗╝ΞΟ┐└┴┬├─┼ΠΡ╚╔╩╦╠═╬ΣΤΥΦΧΨΩαβγ┘┌█▄δε▀ζηθικλμνξοπρσςτ΄\u00AD±υφχ§ψ΅°¨ωϋΰώ■" ++
      "\u00A0"

/-- Urdu. -/
def urdu1006 : UpperHalf where
  characters :=
    controls ++
      "\u00A0۰۱۲۳۴۵۶۷۸۹،\u061B\u00AD\u061F\uFE81\uFE8D\uFE8E\uFE8E\uFE8F\uFE91\uFB56\uFB58\uFE93" ++
      "\uFE95\uFE97\uFB66\uFB68\uFE99\uFE9B\uFE9D\uFE9F\uFB7A\uFB7C\uFEA1\uFEA3\uFEA5\uFEA7" ++
      "\uFEA9\uFB84\uFEAB\uFEAD\uFB8C\uFEAF\uFB8A\uFEB1\uFEB3\uFEB5\uFEB7\uFEB9\uFEBB\uFEBD" ++
      "\uFEBF\uFEC1\uFEC5\uFEC9\uFECA\uFECB\uFECC\uFECD\uFECE\uFECF\uFED0\uFED1\uFED3\uFED5" ++
      "\uFED7\uFED9\uFEDB\uFB92\uFB94\uFEDD\uFEDF\uFEE0\uFEE1\uFEE3\uFB9E\uFEE5\uFEE7\uFE85" ++
      "\uFEED\uFBA6\uFBA8\uFBA9\uFBAA\uFE80\uFE89\uFE8A\uFE8B\uFEF1\uFEF2\uFEF3\uFBB0\uFBAE" ++
      "\uFE7C\uFE7D"

/-- Ukrainian DOS. -/
def dos1125 : UpperHalf where
  characters :=
    "АБВГДЕЖЗИЙКЛМНОПРСТУФХЦЧШЩЪЫЬЭЮЯабвгдежзийклмноп░▒▓│┤╡╢╖╕╣║╗╝╜╛┐└┴┬├─┼╞╟╚╔╩╦╠═╬╧╨╤╥╙╘╒╓╫╪" ++
      "┘┌█▄▌▐▀рстуфхцчшщъыьэюяЁёҐґЄєІіЇї·√№¤■\u00A0"

/-- Roman characters of printers and terminals. -/
def roman8 : UpperHalf where
  characters :=
    controls ++
      "\u00A0ÀÂÈÊËÎÏ´ˋˆ¨˜ÙÛ₤¯Ýý°ÇçÑñ¡¿¤£¥§ƒ¢âêôûáéóúàèòùäëöüÅîØÆåíøæÄìÖÜÉïßÔÁÃãÐðÍÌÓÒÕõŠšÚŸÿÞþ·µ" ++
      "¶¾—¼½ªº«■»±\uFFFE"

/-- Western handheld computers. -/
def palm : UpperHalf where
  characters :=
    "€\u0081‚ƒ„…†‡ˆ‰Š‹Œ♦♣♥♠‘’“”•–—˜™š\u009Bœ\u009D\u009EŸ\u00A0¡¢£¤¥¦§¨©ª«¬\u00AD®¯°±²³´µ¶·¸¹º" ++
      "»¼½¾¿ÀÁÂÃÄÅÆÇÈÉÊËÌÍÎÏÐÑÒÓÔÕÖ×ØÙÚÛÜÝÞßàáâãäåæçèéêëìíîïðñòóôõö÷øùúûüýþÿ"

/-- The encodings with one byte per character by their names. -/
def singleByteNames : List (List String × UpperHalf) :=
  [(["cp1250", "windows_1250"], windows1250),
   (["cp1251", "windows_1251"], windows1251),
   (["cp1252", "windows_1252"], windows1252),
   (["cp1253", "windows_1253"], windows1253),
   (["cp1254", "windows_1254"], windows1254),
   (["cp1255", "windows_1255"], windows1255),
   (["cp1256", "windows_1256"], windows1256),
   (["cp1257", "windows_1257"], windows1257),
   (["cp1258", "windows_1258"], windows1258),
   (["cp874"], windows874),
   (["iso8859_2", "csisolatin2", "iso_8859_2", "iso_8859_2_1987", "iso_ir_101", "l2", "latin2"],
    latinPart2),
   (["iso8859_3", "csisolatin3", "iso_8859_3", "iso_8859_3_1988", "iso_ir_109", "l3", "latin3"],
    latinPart3),
   (["iso8859_4", "csisolatin4", "iso_8859_4", "iso_8859_4_1988", "iso_ir_110", "l4", "latin4"],
    latinPart4),
   (["iso8859_5", "csisolatincyrillic", "cyrillic", "iso_8859_5", "iso_8859_5_1988",
     "iso_ir_144"], latinPart5),
   (["iso8859_6", "arabic", "asmo_708", "csisolatinarabic", "ecma_114", "iso_8859_6",
     "iso_8859_6_1987", "iso_ir_127"], latinPart6),
   (["iso8859_7", "csisolatingreek", "ecma_118", "elot_928", "greek", "greek8", "iso_8859_7",
     "iso_8859_7_1987", "iso_ir_126"], latinPart7),
   (["iso8859_8", "csisolatinhebrew", "hebrew", "iso_8859_8", "iso_8859_8_1988", "iso_ir_138"],
    latinPart8),
   (["iso8859_9", "csisolatin5", "iso_8859_9", "iso_8859_9_1989", "iso_ir_148", "l5", "latin5"],
    latinPart9),
   (["iso8859_10", "csisolatin6", "iso_8859_10", "iso_8859_10_1992", "iso_ir_157", "l6",
     "latin6"], latinPart10),
   (["iso8859_11", "iso_8859_11", "iso_8859_11_2001", "thai"], latinPart11),
   (["iso8859_13", "iso_8859_13", "l7", "latin7"], latinPart13),
   (["iso8859_14", "iso_8859_14", "iso_8859_14_1998", "iso_celtic", "iso_ir_199", "l8", "latin8"],
    latinPart14),
   (["iso8859_15", "iso_8859_15", "l9", "latin9"], latinPart15),
   (["iso8859_16", "iso_8859_16", "iso_8859_16_2001", "iso_ir_226", "l10", "latin10"], latinPart16),
   (["tis_620", "iso_ir_166", "tis620", "tis_620_0", "tis_620_2529_0", "tis_620_2529_1"], thai620),
   (["koi8_r", "cskoi8r"], koi8Russian),
   (["koi8_u"], koi8Ukrainian),
   (["koi8_t"], koi8Tajik),
   (["kz1048", "kz_1048", "rk1048", "strk1048_2002"], kazakh1048),
   (["ptcp154", "cp154", "csptcp154", "cyrillic_asian", "pt154"], asianCyrillic),
   (["mac_roman", "macintosh", "macroman"], macintosh),
   (["mac_latin2", "mac_centeuro", "maccentraleurope", "maclatin2"], macintoshLatin2),
   (["mac_croatian"], macintoshCroatian),
   (["mac_cyrillic", "maccyrillic"], macintoshCyrillic),
   (["mac_greek", "macgreek"], macintoshGreek),
   (["mac_iceland", "maciceland"], macintoshIcelandic),
   (["mac_romanian"], macintoshRomanian),
   (["mac_turkish", "macturkish"], macintoshTurkish),
   (["cp437", "cspc8codepage437", "ibm437"], dos437),
   (["cp720"], dos720),
   (["cp737"], dos737),
   (["cp775", "cspc775baltic", "ibm775"], dos775),
   (["cp850", "cspc850multilingual", "ibm850"], dos850),
   (["cp852", "cspcp852", "ibm852"], dos852),
   (["cp855", "csibm855", "ibm855"], dos855),
   (["cp856"], dos856),
   (["cp857", "csibm857", "ibm857"], dos857),
   (["cp858", "csibm858", "ibm858"], dos858),
   (["cp860", "csibm860", "ibm860"], dos860),
   (["cp861", "cp_is", "csibm861", "ibm861"], dos861),
   (["cp862", "cspc862latinhebrew", "ibm862"], dos862),
   (["cp863", "csibm863", "ibm863"], dos863),
   (["cp865", "csibm865", "ibm865"], dos865),
   (["cp866", "csibm866", "ibm866"], dos866),
   (["cp869", "cp_gr", "csibm869", "ibm869"], dos869),
   (["cp1006"], urdu1006),
   (["cp1125", "cp866u", "ibm1125", "ruscii"], dos1125),
   (["hp_roman8", "cp1051", "ibm1051", "r8", "roman8"], roman8),
   (["palmos"], palm)]

/-- The names of the encoding whose bytes are the codes of characters. -/
def latin1Names : List String :=
  ["charmap", "latin_1", "cp819", "csisolatin1", "ibm819", "iso8859", "iso8859_1", "iso_8859_1",
   "iso_8859_1_1987", "iso_ir_100", "l1", "latin", "latin1", "raw_unicode_escape", "unicode_escape"]

/-- The names of encodings whose bytes from 0x80 on never stand for a character by themselves. -/
def lowerHalfNames : List String :=
  ["ascii", "ansi_x3_4_1968", "cp367", "csascii", "ibm367", "iso646_us", "iso_ir_6", "us",
   "us_ascii", "iso2022_jp", "csiso2022jp", "iso2022jp", "iso_2022_jp", "iso2022_jp_1",
   "iso2022jp_1", "iso_2022_jp_1", "iso2022_jp_2", "iso2022jp_2", "iso_2022_jp_2",
   "iso2022_jp_2004", "iso2022jp_2004", "iso_2022_jp_2004", "iso2022_jp_3", "iso2022jp_3",
   "iso_2022_jp_3", "iso2022_jp_ext", "iso2022jp_ext", "iso_2022_jp_ext", "utf_8", "cp65001", "u8",
   "utf", "utf8", "utf8_ucs2", "utf8_ucs4", "utf_8_sig"]

/-- The names of the encoding that is ASCII but for the tilde, which starts what is not. -/
def tildelessNames : List String :=
  ["hz", "hz_gb", "hz_gb_2312", "hzgb"]

/-- The names of encodings whose bytes below 0x80 are not those of ASCII, or where others stand for
characters of ASCII as well. -/
def foreignNames : List String :=
  ["cp037", "csibm037", "ebcdic_cp_ca", "ebcdic_cp_nl", "ebcdic_cp_us", "ebcdic_cp_wt", "ibm037",
   "ibm039", "cp1026", "csibm1026", "ibm1026", "cp1140", "ibm1140", "cp273", "csibm273", "ibm273",
   "cp424", "csibm424", "ebcdic_cp_he", "ibm424", "cp500", "csibm500", "ebcdic_cp_be",
   "ebcdic_cp_ch", "ibm500", "cp864", "csibm864", "ibm864", "cp875", "mac_arabic", "mac_farsi"]

/-- The names of encodings with several bytes per character, those of the standard aside. -/
def severalByteNames : List String :=
  ["big5", "big5_tw", "csbig5", "x_mac_trad_chinese", "big5hkscs", "big5_hkscs", "hkscs", "cp932",
   "ms932", "ms_kanji", "mskanji", "cp949", "ms949", "uhc", "cp950", "ms950", "euc_jis_2004",
   "euc_jis2004", "eucjis2004", "jisx0213", "euc_jisx0213", "eucjisx0213", "euc_jp", "eucjp",
   "u_jis", "ujis", "euc_kr", "euckr", "korean", "ks_c_5601", "ks_c_5601_1987", "ks_x_1001",
   "ksc5601", "ksx1001", "x_mac_korean", "gb18030", "gb18030_2000", "gb2312", "chinese",
   "csiso58gb231280", "euc_cn", "euccn", "eucgb2312_cn", "gb2312_1980", "gb2312_80", "iso_ir_58",
   "x_mac_simp_chinese", "gbk", "cp936", "ms936", "iso2022_kr", "csiso2022kr", "iso2022kr",
   "iso_2022_kr", "johab", "cp1361", "ms1361", "shift_jis", "csshiftjis", "s_jis", "shiftjis",
   "sjis", "x_mac_japanese", "shift_jis_2004", "s_jis_2004", "shiftjis2004", "sjis_2004",
   "shift_jisx0213", "s_jisx0213", "shiftjisx0213", "sjisx0213", "utf_16", "u16", "utf16",
   "utf_16_be", "unicodebigunmarked", "utf_16be", "utf_16_le", "unicodelittleunmarked", "utf_16le",
   "utf_32", "u32", "utf32", "utf_32_be", "utf_32be", "utf_32_le", "utf_32le", "utf_7", "u7",
   "unicode_1_1_utf_7", "utf7"]

/-- The names with a dot of their own; they stand for ASCII. -/
def dottedNames : List String :=
  ["ansi_x3.4_1968", "ansi_x3.4_1986", "iso_646.irv_1991"]

/-- The names that hold as they are written and not with a dot for an underscore. -/
def undottedNames : List String :=
  ["euc_jis_2004", "euc_jisx0213", "euc_jp", "euc_kr", "hp_roman8", "iso2022_jp", "iso2022_jp_1",
   "iso2022_jp_2", "iso2022_jp_2004", "iso2022_jp_3", "iso2022_jp_ext", "iso2022_kr", "iso8859_10",
   "iso8859_11", "iso8859_13", "iso8859_14", "iso8859_15", "iso8859_16", "iso8859_2", "iso8859_3",
   "iso8859_4", "iso8859_5", "iso8859_6", "iso8859_7", "iso8859_8", "iso8859_9", "koi8_r",
   "koi8_t", "koi8_u", "latin_1", "mac_arabic", "mac_croatian", "mac_cyrillic", "mac_farsi",
   "mac_greek", "mac_iceland", "mac_latin2", "mac_roman", "mac_romanian", "mac_turkish",
   "raw_unicode_escape", "shift_jis", "shift_jis_2004", "shift_jisx0213", "tis_620",
   "unicode_escape", "utf_16", "utf_16_be", "utf_16_le", "utf_32", "utf_32_be", "utf_32_le",
   "utf_7", "utf_8", "utf_8_sig"]

end LicenseHeaders.Xml
