import DepthRules.Charset.Page

/-!
# The pages there are

The pages of the standards for alphabets, those of vendors, and national ones.
-/

namespace DepthRules.Charset

/-- The pages without separate marks. -/
def pages : List Page := [
  ⟨["iso-8859-2", "iso_8859-2", "iso8859-2", "iso-ir-101", "latin2", "l2", "csisolatin2",
    "iso-latin-2"], 0xA0,
    "\u00a0Ą˘Ł¤ĽŚ§¨ŠŞŤŹ\u00adŽŻ°ą˛ł´ľśˇ¸šşťź˝žżŔÁÂĂÄĹĆÇČÉĘËĚÍÎĎĐŃŇÓÔŐÖ×ŘŮÚŰÜÝŢßŕáâăäĺćçčéęëěíîďđń" ++
    "ňóôőö÷řůúűüýţ˙"⟩,
  ⟨["iso-8859-3", "iso_8859-3", "iso8859-3", "iso-ir-109", "latin3", "l3", "csisolatin3"], 0xA0,
    "\u00a0Ħ˘£¤\ufffdĤ§¨İŞĞĴ\u00ad\ufffdŻ°ħ²³´µĥ·¸ışğĵ½\ufffdżÀÁÂ\ufffdÄĊĈÇÈÉÊËÌÍÎÏ\ufffdÑÒÓÔĠÖ×Ĝ" ++
    "ÙÚÛÜŬŜßàáâ\ufffdäċĉçèéêëìíîï\ufffdñòóôġö÷ĝùúûüŭŝ˙"⟩,
  ⟨["iso-8859-4", "iso_8859-4", "iso8859-4", "iso-ir-110", "latin4", "l4", "csisolatin4"], 0xA0,
    "\u00a0ĄĸŖ¤ĨĻ§¨ŠĒĢŦ\u00adŽ¯°ą˛ŗ´ĩļˇ¸šēģŧŊžŋĀÁÂÃÄÅÆĮČÉĘËĖÍÎĪĐŅŌĶÔÕÖ×ØŲÚÛÜŨŪßāáâãäåæįčéęëėíîīđņ" ++
    "ōķôõö÷øųúûüũū˙"⟩,
  ⟨["iso-8859-5", "iso_8859-5", "iso8859-5", "iso-ir-144", "cyrillic", "csisolatincyrillic"], 0xA0,
    "\u00a0ЁЂЃЄЅІЇЈЉЊЋЌ\u00adЎЏАБВГДЕЖЗИЙКЛМНОПРСТУФХЦЧШЩЪЫЬЭЮЯабвгдежзийклмнопрстуфхцчшщъыьэюя№ё" ++
    "ђѓєѕіїјљњћќ§ўџ"⟩,
  ⟨["iso-8859-6", "iso_8859-6", "iso8859-6", "iso-ir-127", "ecma-114", "asmo-708", "arabic",
    "csisolatinarabic"], 0xA0,
    "\u00a0\ufffd\ufffd\ufffd¤\ufffd\ufffd\ufffd\ufffd\ufffd\ufffd\ufffd،\u00ad\ufffd\ufffd\ufffd" ++
    "\ufffd\ufffd\ufffd\ufffd\ufffd\ufffd\ufffd\ufffd\ufffd\ufffd\u061b\ufffd\ufffd\ufffd\u061f" ++
    "\ufffd\u0621\u0622\u0623\u0624\u0625\u0626\u0627\u0628\u0629\u062a\u062b\u062c\u062d\u062e" ++
    "\u062f\u0630\u0631\u0632\u0633\u0634\u0635\u0636\u0637\u0638\u0639\u063a\ufffd\ufffd\ufffd" ++
    "\ufffd\ufffd\u0640\u0641\u0642\u0643\u0644\u0645\u0646\u0647\u0648\u0649\u064a\u064b\u064c" ++
    "\u064d\u064e\u064f\u0650\u0651\u0652"⟩,
  ⟨["iso-8859-7", "iso_8859-7", "iso8859-7", "iso-ir-126", "ecma-118", "elot_928", "greek8",
    "greek", "csisolatingreek"], 0xA0,
    "\u00a0‘’£€₯¦§¨©ͺ«¬\u00ad\ufffd―°±²³΄΅Ά·ΈΉΊ»Ό½ΎΏΐΑΒΓΔΕΖΗΘΙΚΛΜΝΞΟΠΡ\ufffdΣΤΥΦΧΨΩΪΫάέήίΰαβγδεζη" ++
    "θικλμνξοπρςστυφχψωϊϋόύώ"⟩,
  ⟨["iso-8859-8", "iso_8859-8", "iso8859-8", "iso-ir-138", "hebrew", "csisolatinhebrew"], 0xA0,
    "\u00a0\ufffd¢£¤¥¦§¨©×«¬\u00ad®¯°±²³´µ¶·¸¹÷»¼½¾\ufffd\ufffd\ufffd\ufffd\ufffd\ufffd\ufffd" ++
    "\ufffd\ufffd\ufffd\ufffd\ufffd\ufffd\ufffd\ufffd\ufffd\ufffd\ufffd\ufffd\ufffd\ufffd\ufffd" ++
    "\ufffd\ufffd\ufffd\ufffd\ufffd\ufffd\ufffd\ufffd\ufffd\ufffd‗\u05d0\u05d1\u05d2\u05d3\u05d4" ++
    "\u05d5\u05d6\u05d7\u05d8\u05d9\u05da\u05db\u05dc\u05dd\u05de\u05df\u05e0\u05e1\u05e2\u05e3" ++
    "\u05e4\u05e5\u05e6\u05e7\u05e8\u05e9\u05ea\ufffd\ufffd\u200e\u200f"⟩,
  ⟨["iso-8859-9", "iso_8859-9", "iso8859-9", "iso-ir-148", "latin5", "l5", "csisolatin5"], 0xA0,
    "\u00a0¡¢£¤¥¦§¨©ª«¬\u00ad®¯°±²³´µ¶·¸¹º»¼½¾¿ÀÁÂÃÄÅÆÇÈÉÊËÌÍÎÏĞÑÒÓÔÕÖ×ØÙÚÛÜİŞßàáâãäåæçèéêëìíîïğñ" ++
    "òóôõö÷øùúûüışÿ"⟩,
  ⟨["iso-8859-10", "iso_8859-10", "iso8859-10", "iso-ir-157", "latin6", "l6", "csisolatin6"], 0xA0,
    "\u00a0ĄĒĢĪĨĶ§ĻĐŠŦŽ\u00adŪŊ°ąēģīĩķ·ļđšŧž―ūŋĀÁÂÃÄÅÆĮČÉĘËĖÍÎÏÐŅŌÓÔÕÖŨØŲÚÛÜÝÞßāáâãäåæįčéęëėíîïðņ" ++
    "ōóôõöũøųúûüýþĸ"⟩,
  ⟨["iso-8859-11", "iso_8859-11", "iso8859-11"], 0xA0,
    "\u00a0กขฃคฅฆงจฉชซฌญฎฏฐฑฒณดตถทธนบปผฝพฟภมยรฤลฦวศษสหฬอฮฯะ\u0e31าำ\u0e34\u0e35\u0e36\u0e37\u0e38" ++
    "\u0e39\u0e3a\ufffd\ufffd\ufffd\ufffd฿เแโใไๅๆ\u0e47\u0e48\u0e49\u0e4a\u0e4b\u0e4c\u0e4d\u0e4e" ++
    "๏๐๑๒๓๔๕๖๗๘๙๚๛"⟩,
  ⟨["iso-8859-13", "iso_8859-13", "iso8859-13", "iso-ir-179", "latin7", "l7"], 0xA0,
    "\u00a0”¢£¤„¦§Ø©Ŗ«¬\u00ad®Æ°±²³“µ¶·ø¹ŗ»¼½¾æĄĮĀĆÄÅĘĒČÉŹĖĢĶĪĻŠŃŅÓŌÕÖ×ŲŁŚŪÜŻŽßąįāćäåęēčéźėģķīļšń" ++
    "ņóōõö÷ųłśūüżž’"⟩,
  ⟨["iso-8859-14", "iso_8859-14", "iso8859-14", "iso-ir-199", "latin8", "l8", "iso-celtic"], 0xA0,
    "\u00a0Ḃḃ£ĊċḊ§Ẁ©ẂḋỲ\u00ad®ŸḞḟĠġṀṁ¶ṖẁṗẃṠỳẄẅṡÀÁÂÃÄÅÆÇÈÉÊËÌÍÎÏŴÑÒÓÔÕÖṪØÙÚÛÜÝŶßàáâãäåæçèéêëìíîïŵñ" ++
    "òóôõöṫøùúûüýŷÿ"⟩,
  ⟨["iso-8859-15", "iso_8859-15", "iso8859-15", "iso-ir-203", "latin-9"], 0xA0,
    "\u00a0¡¢£€¥Š§š©ª«¬\u00ad®¯°±²³Žµ¶·ž¹º»ŒœŸ¿ÀÁÂÃÄÅÆÇÈÉÊËÌÍÎÏÐÑÒÓÔÕÖ×ØÙÚÛÜÝÞßàáâãäåæçèéêëìíîïðñ" ++
    "òóôõö÷øùúûüýþÿ"⟩,
  ⟨["iso-8859-16", "iso_8859-16", "iso8859-16", "iso-ir-226", "latin10", "l10"], 0xA0,
    "\u00a0ĄąŁ€„Š§š©Ș«Ź\u00adźŻ°±ČłŽ”¶·žčș»ŒœŸżÀÁÂĂÄĆÆÇÈÉÊËÌÍÎÏĐŃÒÓÔŐÖŚŰÙÚÛÜĘȚßàáâăäćæçèéêëìíîïđń" ++
    "òóôőöśűùúûüęțÿ"⟩,
  ⟨["cp1250", "windows-1250", "ms-ee"], 0x80,
    "€\ufffd‚\ufffd„…†‡\ufffd‰Š‹ŚŤŽŹ\ufffd‘’“”•–—\ufffd™š›śťžź\u00a0ˇ˘Ł¤Ą¦§¨©Ş«¬\u00ad®Ż°±˛ł´µ¶·¸" ++
    "ąş»Ľ˝ľżŔÁÂĂÄĹĆÇČÉĘËĚÍÎĎĐŃŇÓÔŐÖ×ŘŮÚŰÜÝŢßŕáâăäĺćçčéęëěíîďđńňóôőö÷řůúűüýţ˙"⟩,
  ⟨["cp1251", "windows-1251", "ms-cyrl"], 0x80,
    "ЂЃ‚ѓ„…†‡€‰Љ‹ЊЌЋЏђ‘’“”•–—\ufffd™љ›њќћџ\u00a0ЎўЈ¤Ґ¦§Ё©Є«¬\u00ad®Ї°±Ііґµ¶·ё№є»јЅѕїАБВГДЕЖЗИЙКЛМ" ++
    "НОПРСТУФХЦЧШЩЪЫЬЭЮЯабвгдежзийклмнопрстуфхцчшщъыьэюя"⟩,
  ⟨["cp1252", "windows-1252", "ms-ansi"], 0x80,
    "€\ufffd‚ƒ„…†‡ˆ‰Š‹Œ\ufffdŽ\ufffd\ufffd‘’“”•–—˜™š›œ\ufffdžŸ\u00a0¡¢£¤¥¦§¨©ª«¬\u00ad®¯°±²³´µ¶·¸" ++
    "¹º»¼½¾¿ÀÁÂÃÄÅÆÇÈÉÊËÌÍÎÏÐÑÒÓÔÕÖ×ØÙÚÛÜÝÞßàáâãäåæçèéêëìíîïðñòóôõö÷øùúûüýþÿ"⟩,
  ⟨["cp1253", "windows-1253", "ms-greek"], 0x80,
    "€\ufffd‚ƒ„…†‡\ufffd‰\ufffd‹\ufffd\ufffd\ufffd\ufffd\ufffd‘’“”•–—\ufffd™\ufffd›\ufffd\ufffd" ++
    "\ufffd\ufffd\u00a0΅Ά£¤¥¦§¨©\ufffd«¬\u00ad®―°±²³΄µ¶·ΈΉΊ»Ό½ΎΏΐΑΒΓΔΕΖΗΘΙΚΛΜΝΞΟΠΡ\ufffdΣΤΥΦΧΨΩΪΫ" ++
    "άέήίΰαβγδεζηθικλμνξοπρςστυφχψωϊϋόύώ"⟩,
  ⟨["cp1254", "windows-1254", "ms-turk"], 0x80,
    "€\ufffd‚ƒ„…†‡ˆ‰Š‹Œ\ufffd\ufffd\ufffd\ufffd‘’“”•–—˜™š›œ\ufffd\ufffdŸ\u00a0¡¢£¤¥¦§¨©ª«¬\u00ad®" ++
    "¯°±²³´µ¶·¸¹º»¼½¾¿ÀÁÂÃÄÅÆÇÈÉÊËÌÍÎÏĞÑÒÓÔÕÖ×ØÙÚÛÜİŞßàáâãäåæçèéêëìíîïğñòóôõö÷øùúûüışÿ"⟩,
  ⟨["cp1256", "windows-1256", "ms-arab"], 0x80,
    "€\u067e‚ƒ„…†‡ˆ‰\u0679‹Œ\u0686\u0698\u0688\u06af‘’“”•–—\u06a9™\u0691›œ\u200c\u200d\u06ba" ++
    "\u00a0،¢£¤¥¦§¨©\u06be«¬\u00ad®¯°±²³´µ¶·¸¹\u061b»¼½¾\u061f\u06c1\u0621\u0622\u0623\u0624" ++
    "\u0625\u0626\u0627\u0628\u0629\u062a\u062b\u062c\u062d\u062e\u062f\u0630\u0631\u0632\u0633" ++
    "\u0634\u0635\u0636×\u0637\u0638\u0639\u063a\u0640\u0641\u0642\u0643à\u0644â\u0645\u0646" ++
    "\u0647\u0648çèéêë\u0649\u064aîï\u064b\u064c\u064d\u064eô\u064f\u0650÷\u0651ù\u0652ûü\u200e" ++
    "\u200f\u06d2"⟩,
  ⟨["cp1257", "windows-1257", "winbaltrim"], 0x80,
    "€\ufffd‚\ufffd„…†‡\ufffd‰\ufffd‹\ufffd¨ˇ¸\ufffd‘’“”•–—\ufffd™\ufffd›\ufffd¯˛\ufffd\u00a0" ++
    "\ufffd¢£¤\ufffd¦§Ø©Ŗ«¬\u00ad®Æ°±²³´µ¶·ø¹ŗ»¼½¾æĄĮĀĆÄÅĘĒČÉŹĖĢĶĪĻŠŃŅÓŌÕÖ×ŲŁŚŪÜŻŽßąįāćäåęēčéźėģķ" ++
    "īļšńņóōõö÷ųłśūüżž˙"⟩,
  ⟨["koi8-r", "cskoi8r"], 0x80,
    "─│┌┐└┘├┤┬┴┼▀▄█▌▐░▒▓⌠■∙√≈≤≥\u00a0⌡°²·÷═║╒ё╓╔╕╖╗╘╙╚╛╜╝╞╟╠╡Ё╢╣╤╥╦╧╨╩╪╫╬©юабцдефгхийклмнопярстуж" ++
    "вьызшэщчъЮАБЦДЕФГХИЙКЛМНОПЯРСТУЖВЬЫЗШЭЩЧЪ"⟩,
  ⟨["koi8-u"], 0x80,
    "─│┌┐└┘├┤┬┴┼▀▄█▌▐░▒▓⌠■∙√≈≤≥\u00a0⌡°²·÷═║╒ёє╔ії╗╘╙╚╛ґ╝╞╟╠╡ЁЄ╣ІЇ╦╧╨╩╪Ґ╬©юабцдефгхийклмнопярстуж" ++
    "вьызшэщчъЮАБЦДЕФГХИЙКЛМНОПЯРСТУЖВЬЫЗШЭЩЧЪ"⟩,
  ⟨["koi8-ru"], 0x80,
    "─│┌┐└┘├┤┬┴┼▀▄█▌▐░▒▓“■∙”—№™\u00a0»®«·¤═║╒ёє╔ії╗╘╙╚╛ґў╞╟╠╡ЁЄ╣ІЇ╦╧╨╩╪ҐЎ©юабцдефгхийклмнопярстуж" ++
    "вьызшэщчъЮАБЦДЕФГХИЙКЛМНОПЯРСТУЖВЬЫЗШЭЩЧЪ"⟩,
  ⟨["koi8-t"], 0x80,
    "қғ‚Ғ„…†‡\ufffd‰ҳ‹ҲҷҶ\ufffdҚ‘’“”•–—\ufffd™\ufffd›\ufffd\ufffd\ufffd\ufffd\ufffdӯӮё¤ӣ¦§\ufffd" ++
    "\ufffd\ufffd«¬\u00ad®\ufffd°±²Ё\ufffdӢ¶·\ufffd№\ufffd»\ufffd\ufffd\ufffd©юабцдефгхийклмнопяр" ++
    "стужвьызшэщчъЮАБЦДЕФГХИЙКЛМНОПЯРСТУЖВЬЫЗШЭЩЧЪ"⟩,
  ⟨["cp850", "ibm850", "cspc850multilingual"], 0x80,
    "ÇüéâäàåçêëèïîìÄÅÉæÆôöòûùÿÖÜø£Ø×ƒáíóúñÑªº¿®¬½¼¡«»░▒▓│┤ÁÂÀ©╣║╗╝¢¥┐└┴┬├─┼ãÃ╚╔╩╦╠═╬¤ðÐÊËÈıÍÎÏ┘┌█" ++
    "▄¦Ì▀ÓßÔÒõÕµþÞÚÛÙýÝ¯´\u00ad±‗¾¶§÷¸°¨·¹³²■\u00a0"⟩,
  ⟨["cp862", "ibm862", "cspc862latinhebrew"], 0x80,
    "\u05d0\u05d1\u05d2\u05d3\u05d4\u05d5\u05d6\u05d7\u05d8\u05d9\u05da\u05db\u05dc\u05dd\u05de" ++
    "\u05df\u05e0\u05e1\u05e2\u05e3\u05e4\u05e5\u05e6\u05e7\u05e8\u05e9\u05ea¢£¥₧ƒáíóúñÑªº¿⌐¬½¼¡«" ++
    "»░▒▓│┤╡╢╖╕╣║╗╝╜╛┐└┴┬├─┼╞╟╚╔╩╦╠═╬╧╨╤╥╙╘╒╓╫╪┘┌█▄▌▐▀αßΓπΣσµτΦΘΩδ∞φε∩≡±≥≤⌠⌡÷≈°∙·√ⁿ²■\u00a0"⟩,
  ⟨["cp866", "ibm866", "csibm866"], 0x80,
    "АБВГДЕЖЗИЙКЛМНОПРСТУФХЦЧШЩЪЫЬЭЮЯабвгдежзийклмноп░▒▓│┤╡╢╖╕╣║╗╝╜╛┐└┴┬├─┼╞╟╚╔╩╦╠═╬╧╨╤╥╙╘╒╓╫╪┘┌█" ++
    "▄▌▐▀рстуфхцчшщъыьэюяЁёЄєЇїЎў°∙·√№¤■\u00a0"⟩,
  ⟨["cp1131"], 0x80,
    "АБВГДЕЖЗИЙКЛМНОПРСТУФХЦЧШЩЪЫЬЭЮЯабвгдежзийклмноп░▒▓│┤╡╢╖╕╣║╗╝╜╛┐└┴┬├─┼╞╟╚╔╩╦╠═╬╧╨╤╥╙╘╒╓╫╪┘┌█" ++
    "▄▌▐▀рстуфхцчшщъыьэюяЁёЄєЇїЎўІі·¤Ґґ∙\u00a0"⟩,
  ⟨["macroman", "macintosh", "mac", "csmacintosh"], 0x80,
    "ÄÅÇÉÑÖÜáàâäãåçéèêëíìîïñóòôöõúùûü†°¢£§•¶ß®©™´¨≠ÆØ∞±≤≥¥µ∂∑∏π∫ªºΩæø¿¡¬√ƒ≈∆«»…\u00a0ÀÃÕŒœ–—“”‘’÷" ++
    "◊ÿŸ⁄€‹›ﬁﬂ‡·‚„‰ÂÊÁËÈÍÎÏÌÓÔ\ufffdÒÚÛÙıˆ˜¯˘˙˚¸˝˛ˇ"⟩,
  ⟨["maccentraleurope"], 0x80,
    "ÄĀāÉĄÖÜáąČäčĆćéŹźĎíďĒēĖóėôöõúĚěü†°Ę£§•¶ß®©™ę¨≠ģĮįĪ≤≥īĶ∂∑łĻļĽľĹĺŅņŃ¬√ńŇ∆«»…\u00a0ňŐÕőŌ–—“”‘’÷" ++
    "◊ōŔŕŘ‹›řŖŗŠ‚„šŚśÁŤťÍŽžŪÓÔūŮÚůŰűŲųÝýķŻŁżĢˇ"⟩,
  ⟨["maciceland"], 0x80,
    "ÄÅÇÉÑÖÜáàâäãåçéèêëíìîïñóòôöõúùûüÝ°¢£§•¶ß®©™´¨≠ÆØ∞±≤≥¥µ∂∑∏π∫ªºΩæø¿¡¬√ƒ≈∆«»…\u00a0ÀÃÕŒœ–—“”‘’÷" ++
    "◊ÿŸ⁄€ÐðÞþý·‚„‰ÂÊÁËÈÍÎÏÌÓÔ\ufffdÒÚÛÙıˆ˜¯˘˙˚¸˝˛ˇ"⟩,
  ⟨["maccroatian"], 0x80,
    "ÄÅÇÉÑÖÜáàâäãåçéèêëíìîïñóòôöõúùûü†°¢£§•¶ß®Š™´¨≠ŽØ∞±≤≥∆µ∂∑∏š∫ªºΩžø¿¡¬√ƒ≈Ć«Č…\u00a0ÀÃÕŒœĐ—“”‘’÷" ++
    "◊\ufffd©⁄€‹›Æ»–·‚„‰ÂćÁčÈÍÎÏÌÓÔđÒÚÛÙıˆ˜¯πË˚¸Êæˇ"⟩,
  ⟨["macromania"], 0x80,
    "ÄÅÇÉÑÖÜáàâäãåçéèêëíìîïñóòôöõúùûü†°¢£§•¶ß®©™´¨≠ĂȘ∞±≤≥¥µ∂∑∏π∫ªºΩăș¿¡¬√ƒ≈∆«»…\u00a0ÀÃÕŒœ–—“”‘’÷" ++
    "◊ÿŸ⁄€‹›Țț‡·‚„‰ÂÊÁËÈÍÎÏÌÓÔ\ufffdÒÚÛÙıˆ˜¯˘˙˚¸˝˛ˇ"⟩,
  ⟨["maccyrillic"], 0x80,
    "АБВГДЕЖЗИЙКЛМНОПРСТУФХЦЧШЩЪЫЬЭЮЯ†°¢£§•¶І®©™Ђђ≠Ѓѓ∞±≤≥іµ∂ЈЄєЇїЉљЊњјЅ¬√ƒ≈∆«»…\u00a0ЋћЌќѕ–—“”‘’÷" ++
    "„ЎўЏџ№Ёёяабвгдежзийклмнопрстуфхцчшщъыьэю¤"⟩,
  ⟨["macukraine"], 0x80,
    "АБВГДЕЖЗИЙКЛМНОПРСТУФХЦЧШЩЪЫЬЭЮЯ†°Ґ£§•¶І®©™Ђђ≠Ѓѓ∞±≤≥іµґЈЄєЇїЉљЊњјЅ¬√ƒ≈∆«»…\u00a0ЋћЌќѕ–—“”‘’÷" ++
    "„ЎўЏџ№Ёёяабвгдежзийклмнопрстуфхцчшщъыьэю¤"⟩,
  ⟨["macgreek"], 0x80,
    "Ä¹²É³ÖÜ΅àâä΄¨çéèêë£™îï•½‰ôö¦€ùûü†ΓΔΘΛΞΠß®©ΣΪ§≠°·Α±≤≥¥ΒΕΖΗΙΚΜΦΫΨΩάΝ¬ΟΡ≈Τ«»…\u00a0ΥΧΆΈœ–―“”‘’÷" ++
    "ΉΊΌΎέήίόΏύαβψδεφγηιξκλμνοπώρστθωςχυζϊϋΐΰ\u00ad"⟩,
  ⟨["macturkish"], 0x80,
    "ÄÅÇÉÑÖÜáàâäãåçéèêëíìîïñóòôöõúùûü†°¢£§•¶ß®©™´¨≠ÆØ∞±≤≥¥µ∂∑∏π∫ªºΩæø¿¡¬√ƒ≈∆«»…\u00a0ÀÃÕŒœ–—“”‘’÷" ++
    "◊ÿŸĞğİıŞş‡·‚„‰ÂÊÁËÈÍÎÏÌÓÔ\ufffdÒÚÛÙ\ufffdˆ˜¯˘˙˚¸˝˛ˇ"⟩,
  ⟨["machebrew"], 0x80,
    "Ä\ufb1fÇÉÑÖÜáàâäãåçéèêëíìîïñóòôöõúùûü !\"#$%₪'()*+,-./0123456789:;<=>?\ufffd„\ufffd\ufffd" ++
    "\ufffd\ufffd\u05bc\ufb4b\ufffd…\u00a0\u05b8\u05b7\u05b5\u05b6\u05b4–—“”‘’\ufb2a\ufb2b\u05bf" ++
    "\u05b0\u05b2\u05b1\u05bb\u05b9\u05b8\u05b3\u05d0\u05d1\u05d2\u05d3\u05d4\u05d5\u05d6\u05d7" ++
    "\u05d8\u05d9\u05da\u05db\u05dc\u05dd\u05de\u05df\u05e0\u05e1\u05e2\u05e3\u05e4\u05e5\u05e6" ++
    "\u05e7\u05e8\u05e9\u05ea\x7d]\x7b[|"⟩,
  ⟨["macarabic"], 0x80,
    "Ä\u00a0ÇÉÑÖÜáàâä\u06ba«çéèêëí…îïñó»ôö÷úùûü !\"#$٪&'()*+،-./٠١٢٣٤٥٦٧٨٩:\u061b<=>\u061f❊\u0621" ++
    "\u0622\u0623\u0624\u0625\u0626\u0627\u0628\u0629\u062a\u062b\u062c\u062d\u062e\u062f\u0630" ++
    "\u0631\u0632\u0633\u0634\u0635\u0636\u0637\u0638\u0639\u063a[\\]^_\u0640\u0641\u0642\u0643" ++
    "\u0644\u0645\u0646\u0647\u0648\u0649\u064a\u064b\u064c\u064d\u064e\u064f\u0650\u0651\u0652" ++
    "\u067e\u0679\u0686\u06d5\u06a4\u06af\u0688\u0691\x7b|\x7d\u0698\u06d2"⟩,
  ⟨["macthai"], 0x80,
    "«»…\ufffd\ufffd\ufffd\ufffd\ufffd\ufffd\ufffd\ufffd\ufffd\ufffd“”\ufffd\ufffd•\ufffd\ufffd" ++
    "\ufffd\ufffd\ufffd\ufffd\ufffd\ufffd\ufffd\ufffd\ufffd‘’\ufffd\u00a0กขฃคฅฆงจฉชซฌญฎฏฐฑฒณดตถทธ" ++
    "นบปผฝพฟภมยรฤลฦวศษสหฬอฮฯะ\u0e31าำ\u0e34\u0e35\u0e36\u0e37\u0e38\u0e39\u0e3a\ufeff\u200b–—฿เแโ" ++
    "ใไๅๆ\u0e47\u0e48\u0e49\u0e4a\u0e4b\u0e4c\u0e4d™๏๐๑๒๓๔๕๖๗๘๙®©"⟩,
  ⟨["hp-roman8", "roman8", "r8", "cshproman8"], 0xA0,
    "\u00a0ÀÂÈÊËÎÏ´ˋˆ¨˜ÙÛ₤¯Ýý°ÇçÑñ¡¿¤£¥§ƒ¢âêôûáéóúàèòùäëöüÅîØÆåíøæÄìÖÜÉïßÔÁÃãÐðÍÌÓÒÕõŠšÚŸÿÞþ·µ¶¾—" ++
    "¼½ªº«■»±"⟩,
  ⟨["nextstep"], 0x80,
    "\u00a0ÀÁÂÃÄÅÇÈÉÊËÌÍÎÏÐÑÒÓÔÕÖÙÚÛÜÝÞµ×÷©¡¢£⁄¥ƒ§¤’“«‹›ﬁﬂ®–†‡·¦¶•‚„”»…‰¬¿¹ˋ´ˆ˜¯˘˙¨²˚¸³˝˛ˇ—±¼½¾àá" ++
    "âãäåçèéêëìÆíªîïðñŁØŒºòóôõöæùúûıüýłøœßþÿ"⟩,
  ⟨["armscii-8"], 0xA0,
    "\u00a0\ufffdև։)(»«—.՝,-֊…՜՛՞ԱաԲբԳգԴդԵեԶզԷէԸըԹթԺժԻիԼլԽխԾծԿկՀհՁձՂղՃճՄմՅյՆնՇշՈոՉչՊպՋջՌռՍսՎվՏտՐր" ++
    "ՑցՒւՓփՔքՕօՖֆ՚"⟩,
  ⟨["georgian-academy"], 0x80,
    "\u0080\u0081‚ƒ„…†‡ˆ‰Š‹Œ\u008d\u008e\u008f\u0090‘’“”•–—˜™š›œ\u009d\u009eŸ\u00a0¡¢£¤¥¦§¨©ª«¬" ++
    "\u00ad®¯°±²³´µ¶·¸¹º»¼½¾¿აბგდევზთიკლმნოპჟრსტუფქღყშჩცძწჭხჯჰჱჲჳჴჵჶçèéêëìíîïðñòóôõö÷øùúûüýþÿ"⟩,
  ⟨["georgian-ps"], 0x80,
    "\u0080\u0081‚ƒ„…†‡ˆ‰Š‹Œ\u008d\u008e\u008f\u0090‘’“”•–—˜™š›œ\u009d\u009eŸ\u00a0¡¢£¤¥¦§¨©ª«¬" ++
    "\u00ad®¯°±²³´µ¶·¸¹º»¼½¾¿აბგდევზჱთიკლმნჲოპჟრსტჳუფქღყშჩცძწჭხჴჯჰჵæçèéêëìíîïðñòóôõö÷øùúûüýþÿ"⟩,
  ⟨["pt154", "ptcp154", "cp154", "cyrillic-asian", "csptcp154"], 0x80,
    "ҖҒӮғ„…ҶҮҲүҠӢҢҚҺҸҗ‘’“”•–—ҳҷҡӣңқһҹ\u00a0ЎўЈӨҘҰ§Ё©Ә«¬ӯ®Ҝ°ұІіҙө¶·ё№ә»јҪҫҝАБВГДЕЖЗИЙКЛМНОПРСТУФХЦ" ++
    "ЧШЩЪЫЬЭЮЯабвгдежзийклмнопрстуфхцчшщъыьэюя"⟩,
  ⟨["rk1048", "strk1048-2002", "kz-1048", "cskz1048"], 0x80,
    "ЂЃ‚ѓ„…†‡€‰Љ‹ЊҚҺЏђ‘’“”•–—\ufffd™љ›њқһџ\u00a0ҰұӘ¤Ө¦§Ё©Ғ«¬\u00ad®Ү°±Ііөµ¶·ё№ғ»әҢңүАБВГДЕЖЗИЙКЛМ" ++
    "НОПРСТУФХЦЧШЩЪЫЬЭЮЯабвгдежзийклмнопрстуфхцчшщъыьэюя"⟩,
  ⟨["mulelao-1"], 0xA0,
    "\u00a0ກຂ\ufffdຄ\ufffd\ufffdງຈ\ufffdຊ\ufffd\ufffdຍ\ufffd\ufffd\ufffd\ufffd\ufffd\ufffdດຕຖທ" ++
    "\ufffdນບປຜຝພຟ\ufffdມຢຣ\ufffdລ\ufffdວ\ufffd\ufffdສຫ\ufffdອຮຯະ\u0eb1າຳ\u0eb4\u0eb5\u0eb6\u0eb7" ++
    "\u0eb8\u0eb9\ufffd\u0ebb\u0ebcຽ\ufffd\ufffdເແໂໃໄ\ufffdໆ\ufffd\u0ec8\u0ec9\u0eca\u0ecb\u0ecc" ++
    "\u0ecd\ufffd\ufffd໐໑໒໓໔໕໖໗໘໙\ufffd\ufffdໜໝ"⟩,
  ⟨["cp1133", "ibm-cp1133"], 0xA0,
    "\u00a0ກຂຄງຈສຊຍດຕຖທນບປຜຝພຟມຢຣລວຫອຮ\ufffd\ufffd\ufffdຯະາຳ\u0eb4\u0eb5\u0eb6\u0eb7\u0eb8\u0eb9" ++
    "\u0ebc\u0eb1\u0ebbຽ\ufffd\ufffd\ufffdເແໂໃໄ\u0ec8\u0ec9\u0eca\u0ecb\u0ecc\u0ecdໆ\ufffdໜໝ₭" ++
    "\ufffd\ufffd\ufffd\ufffd\ufffd\ufffd\ufffd\ufffd\ufffd\ufffd\ufffd\ufffd\ufffd\ufffd\ufffd" ++
    "\ufffd໐໑໒໓໔໕໖໗໘໙\ufffd\ufffd¢¬¦\u00a0"⟩,
  ⟨["tis-620", "tis620", "tis620-0", "tis620.2529-1", "tis620.2533-0", "tis620.2533-1",
    "iso-ir-166"], 0x80,
    "\ufffd\ufffd\ufffd\ufffd\ufffd\ufffd\ufffd\ufffd\ufffd\ufffd\ufffd\ufffd\ufffd\ufffd\ufffd" ++
    "\ufffd\ufffd\ufffd\ufffd\ufffd\ufffd\ufffd\ufffd\ufffd\ufffd\ufffd\ufffd\ufffd\ufffd\ufffd" ++
    "\ufffd\ufffd\ufffdกขฃคฅฆงจฉชซฌญฎฏฐฑฒณดตถทธนบปผฝพฟภมยรฤลฦวศษสหฬอฮฯะ\u0e31าำ\u0e34\u0e35\u0e36" ++
    "\u0e37\u0e38\u0e39\u0e3a\ufffd\ufffd\ufffd\ufffd฿เแโใไๅๆ\u0e47\u0e48\u0e49\u0e4a\u0e4b\u0e4c" ++
    "\u0e4d\u0e4e๏๐๑๒๓๔๕๖๗๘๙๚๛"⟩,
  ⟨["cp874", "windows-874"], 0x80,
    "€\ufffd\ufffd\ufffd\ufffd…\ufffd\ufffd\ufffd\ufffd\ufffd\ufffd\ufffd\ufffd\ufffd\ufffd\ufffd" ++
    "‘’“”•–—\ufffd\ufffd\ufffd\ufffd\ufffd\ufffd\ufffd\ufffd\u00a0กขฃคฅฆงจฉชซฌญฎฏฐฑฒณดตถทธนบปผฝพฟ" ++
    "ภมยรฤลฦวศษสหฬอฮฯะ\u0e31าำ\u0e34\u0e35\u0e36\u0e37\u0e38\u0e39\u0e3a\ufffd\ufffd\ufffd\ufffd฿" ++
    "เแโใไๅๆ\u0e47\u0e48\u0e49\u0e4a\u0e4b\u0e4c\u0e4d\u0e4e๏๐๑๒๓๔๕๖๗๘๙๚๛"⟩,
  ⟨["viscii", "viscii1.1-1", "csviscii"], 0x00,
    "\x00\x01Ẳ\x03\x04ẴẪ\x07\x08\x09\x0a\x0b\x0c\x0d\x0e\x0f\x10\x11\x12\x13Ỷ\x15\x16\x17\x18Ỹ" ++
    "\x1a\x1b\x1c\x1dỴ\x1f !\"#$%&'()*+,-./0123456789:;<=>?@ABCDEFGHIJKLMNOPQRSTUVWXYZ[\\]^_`abcd" ++
    "efghijklmnopqrstuvwxyz\x7b|\x7d~\x7fẠẮẰẶẤẦẨẬẼẸẾỀỂỄỆỐỒỔỖỘỢỚỜỞỊỎỌỈỦŨỤỲÕắằặấầẩậẽẹếềểễệốồổỗỠƠộờở" ++
    "ịỰỨỪỬơớƯÀÁÂÃẢĂẳẵÈÉÊẺÌÍĨỳĐứÒÓÔạỷừửÙÚỹỵÝỡưàáâãảăữẫèéêẻìíĩỉđựòóôõỏọụùúũủýợỮ"⟩,
  ⟨["jis_x0201", "jisx0201-1976", "x0201", "cshalfwidthkatakana"], 0x5C,
    "¥]^_`abcdefghijklmnopqrstuvwxyz\x7b|\x7d‾\x7f\ufffd\ufffd\ufffd\ufffd\ufffd\ufffd\ufffd" ++
    "\ufffd\ufffd\ufffd\ufffd\ufffd\ufffd\ufffd\ufffd\ufffd\ufffd\ufffd\ufffd\ufffd\ufffd\ufffd" ++
    "\ufffd\ufffd\ufffd\ufffd\ufffd\ufffd\ufffd\ufffd\ufffd\ufffd\ufffd｡｢｣､･ｦｧｨｩｪｫｬｭｮｯｰｱｲｳｴｵｶｷｸｹｺ" ++
    "ｻｼｽｾｿﾀﾁﾂﾃﾄﾅﾆﾇﾈﾉﾊﾋﾌﾍﾎﾏﾐﾑﾒﾓﾔﾕﾖﾗﾘﾙﾚﾛﾜﾝﾞﾟ"⟩,
  ⟨["jis_c6220-1969-ro", "iso646-jp", "iso-ir-14", "jp", "csiso14jisc6220ro"], 0x5C,
    "¥]^_`abcdefghijklmnopqrstuvwxyz\x7b|\x7d‾\x7f"⟩,
  ⟨["gb_1988-80", "iso646-cn", "iso-ir-57", "cn", "csiso57gb1988"], 0x24,
    "¥%&'()*+,-./0123456789:;<=>?@ABCDEFGHIJKLMNOPQRSTUVWXYZ[\\]^_`abcdefghijklmnopqrstuvwxyz\x7b" ++
    "|\x7d‾\x7f"⟩]

/-- The points of Hebrew letters. -/
def hebrewMarks : Marks where
  joins := [
    ('\u05b4', "\u05d9\ufb1d"),
    ('\u05b7', "\u05d0\ufb2e\u05f2\ufb1f"),
    ('\u05b8', "\u05d0\ufb2f"),
    ('\u05b9', "\u05d5\ufb4b"),
    ('\u05bc', "\u05d0\ufb30\u05d1\ufb31\u05d2\ufb32\u05d3\ufb33\u05d4\ufb34\u05d5\ufb35\u05d6\ufb36" ++
      "\u05d8\ufb38\u05d9\ufb39\u05da\ufb3a\u05db\ufb3b\u05dc\ufb3c\u05de\ufb3e\u05e0\ufb40" ++
      "\u05e1\ufb41\u05e3\ufb43\u05e4\ufb44\u05e6\ufb46\u05e7\ufb47\u05e8\ufb48\u05e9\ufb49" ++
      "\u05ea\ufb4a\ufb2a\ufb2c\ufb2b\ufb2d"),
    ('\u05bf', "\u05d1\ufb4c\u05db\ufb4d\u05e4\ufb4e"),
    ('\u05c1', "\u05e9\ufb2a\ufb49\ufb2c"),
    ('\u05c2', "\u05e9\ufb2b\ufb49\ufb2d")]
  furthered := "\ufb2a\ufb2b\ufb49"

/-- The tones of Vietnamese letters. -/
def vietnameseMarks : Marks where
  joins := [
    ('\u0300', "AÀEÈIÌNǸOÒUÙWẀYỲaàeèiìnǹoòuùwẁyỳ¨῭ÂẦÊỀÔỒÜǛâầêềôồüǜĂẰăằĒḔēḕŌṐōṑƠỜơờƯỪưừ"),
    ('\u0301', "AÁCĆEÉGǴIÍKḰLĹMḾNŃOÓPṔRŔSŚUÚWẂYÝZŹaácćeégǵiíkḱlĺmḿnńoópṕrŕsśuúwẃyýzź¨΅ÂẤÅǺÆǼÇḈÊẾÏḮÔỐÕṌØǾ" ++
      "ÜǗâấåǻæǽçḉêếïḯôốõṍøǿüǘĂẮăắĒḖēḗŌṒōṓŨṸũṹƠỚơớƯỨưứ"),
    ('\u0303', "AÃEẼIĨNÑOÕUŨVṼYỸaãeẽiĩnñoõuũvṽyỹÂẪÊỄÔỖâẫêễôỗĂẴăẵƠỠơỡƯỮưữ"),
    ('\u0309', "AẢEẺIỈOỎUỦYỶaảeẻiỉoỏuủyỷÂẨÊỂÔỔâẩêểôổĂẲăẳƠỞơởƯỬưử"),
    ('\u0323', "AẠBḄDḌEẸHḤIỊKḲLḶMṂNṆOỌRṚSṢTṬUỤVṾWẈYỴZẒaạbḅdḍeẹhḥiịkḳlḷmṃnṇoọrṛsṣtṭuụvṿwẉyỵzẓÂẬÊỆÔỘâậêệôộ" ++
      "ĂẶăặƠỢơợƯỰưự")]
  furthered := ""

/-- The pages with separate marks. -/
def markedPages : List MarkedPage := [
  ⟨⟨["cp1255", "windows-1255", "ms-hebr"], 0x80,
    "€\ufffd‚ƒ„…†‡ˆ‰\ufffd‹\ufffd\ufffd\ufffd\ufffd\ufffd‘’“”•–—˜™\ufffd›\ufffd\ufffd\ufffd\ufffd" ++
    "\u00a0¡¢£₪¥¦§¨©×«¬\u00ad®¯°±²³´µ¶·¸¹÷»¼½¾¿\u05b0\u05b1\u05b2\u05b3\u05b4\u05b5\u05b6\u05b7" ++
    "\u05b8\u05b9\ufffd\u05bb\u05bc\u05bd\u05be\u05bf\u05c0\u05c1\u05c2\u05c3\u05f0\u05f1\u05f2" ++
    "\u05f3\u05f4\ufffd\ufffd\ufffd\ufffd\ufffd\ufffd\ufffd\u05d0\u05d1\u05d2\u05d3\u05d4\u05d5" ++
    "\u05d6\u05d7\u05d8\u05d9\u05da\u05db\u05dc\u05dd\u05de\u05df\u05e0\u05e1\u05e2\u05e3\u05e4" ++
    "\u05e5\u05e6\u05e7\u05e8\u05e9\u05ea\ufffd\ufffd\u200e\u200f"⟩, hebrewMarks⟩,
  ⟨⟨["cp1258", "windows-1258"], 0x80,
    "€\ufffd‚ƒ„…†‡ˆ‰\ufffd‹Œ\ufffd\ufffd\ufffd\ufffd‘’“”•–—˜™\ufffd›œ\ufffd\ufffdŸ\u00a0¡¢£¤¥¦§¨©" ++
    "ª«¬\u00ad®¯°±²³´µ¶·¸¹º»¼½¾¿ÀÁÂĂÄÅÆÇÈÉÊË\u0300ÍÎÏĐÑ\u0309ÓÔƠÖ×ØÙÚÛÜƯ\u0303ßàáâăäåæçèéêë\u0301" ++
    "íîïđñ\u0323óôơö÷øùúûüư₫ÿ"⟩, vietnameseMarks⟩,
  ⟨⟨["tcvn", "tcvn-5712", "tcvn5712-1"], 0x00,
    "\x00ÚỤ\x03ỪỬỮ\x07\x08\x09\x0a\x0b\x0c\x0d\x0e\x0f\x10ỨỰỲỶỸÝỴ\x18\x19\x1a\x1b\x1c\x1d\x1e\x1f" ++
    " !\"#$%&'()*+,-./0123456789:;<=>?@ABCDEFGHIJKLMNOPQRSTUVWXYZ[\\]^_`abcdefghijklmnopqrstuvwxy" ++
    "z\x7b|\x7d~\x7fÀẢÃÁẠẶẬÈẺẼÉẸỆÌỈĨÍỊÒỎÕÓỌỘỜỞỠỚỢÙỦŨ\u00a0ĂÂÊÔƠƯĐăâêôơưđẰ\u0300\u0309\u0303\u0301" ++
    "\u0323àảãáạẲằẳẵắẴẮẦẨẪẤỀặầẩẫấậèỂẻẽéẹềểễếệìỉỄẾỒĩíịòỔỏõóọồổỗốộờởỡớợùỖủũúụừửữứựỳỷỹýỵỐ"⟩, vietnameseMarks⟩]

end DepthRules.Charset
