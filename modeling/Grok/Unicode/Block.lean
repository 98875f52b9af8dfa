import Grok.Text.CharSet

namespace Grok.Unicode

/-!
# Blocks

The blocks of version 16.0 of the Unicode standard by name, in lower case and without separators
behind a leading `in`, with their first and last code points.
-/

/-- Blocks by name. -/
def blockTable : List (String × Nat × Nat) :=
  [
    ("inbasiclatin", 0x0, 0x7F),
    ("inlatin1supplement", 0x80, 0xFF),
    ("inlatinextendeda", 0x100, 0x17F),
    ("inlatinextendedb", 0x180, 0x24F),
    ("inipaextensions", 0x250, 0x2AF),
    ("inspacingmodifierletters", 0x2B0, 0x2FF),
    ("incombiningdiacriticalmarks", 0x300, 0x36F),
    ("ingreekandcoptic", 0x370, 0x3FF),
    ("incyrillic", 0x400, 0x4FF),
    ("incyrillicsupplement", 0x500, 0x52F),
    ("inarmenian", 0x530, 0x58F),
    ("inhebrew", 0x590, 0x5FF),
    ("inarabic", 0x600, 0x6FF),
    ("insyriac", 0x700, 0x74F),
    ("inarabicsupplement", 0x750, 0x77F),
    ("inthaana", 0x780, 0x7BF),
    ("innko", 0x7C0, 0x7FF),
    ("insamaritan", 0x800, 0x83F),
    ("inmandaic", 0x840, 0x85F),
    ("insyriacsupplement", 0x860, 0x86F),
    ("inarabicextendedb", 0x870, 0x89F),
    ("inarabicextendeda", 0x8A0, 0x8FF),
    ("indevanagari", 0x900, 0x97F),
    ("inbengali", 0x980, 0x9FF),
    ("ingurmukhi", 0xA00, 0xA7F),
    ("ingujarati", 0xA80, 0xAFF),
    ("inoriya", 0xB00, 0xB7F),
    ("intamil", 0xB80, 0xBFF),
    ("intelugu", 0xC00, 0xC7F),
    ("inkannada", 0xC80, 0xCFF),
    ("inmalayalam", 0xD00, 0xD7F),
    ("insinhala", 0xD80, 0xDFF),
    ("inthai", 0xE00, 0xE7F),
    ("inlao", 0xE80, 0xEFF),
    ("intibetan", 0xF00, 0xFFF),
    ("inmyanmar", 0x1000, 0x109F),
    ("ingeorgian", 0x10A0, 0x10FF),
    ("inhanguljamo", 0x1100, 0x11FF),
    ("inethiopic", 0x1200, 0x137F),
    ("inethiopicsupplement", 0x1380, 0x139F),
    ("incherokee", 0x13A0, 0x13FF),
    ("inunifiedcanadianaboriginalsyllabics", 0x1400, 0x167F),
    ("inogham", 0x1680, 0x169F),
    ("inrunic", 0x16A0, 0x16FF),
    ("intagalog", 0x1700, 0x171F),
    ("inhanunoo", 0x1720, 0x173F),
    ("inbuhid", 0x1740, 0x175F),
    ("intagbanwa", 0x1760, 0x177F),
    ("inkhmer", 0x1780, 0x17FF),
    ("inmongolian", 0x1800, 0x18AF),
    ("inunifiedcanadianaboriginalsyllabicsextended", 0x18B0, 0x18FF),
    ("inlimbu", 0x1900, 0x194F),
    ("intaile", 0x1950, 0x197F),
    ("innewtailue", 0x1980, 0x19DF),
    ("inkhmersymbols", 0x19E0, 0x19FF),
    ("inbuginese", 0x1A00, 0x1A1F),
    ("intaitham", 0x1A20, 0x1AAF),
    ("incombiningdiacriticalmarksextended", 0x1AB0, 0x1AFF),
    ("inbalinese", 0x1B00, 0x1B7F),
    ("insundanese", 0x1B80, 0x1BBF),
    ("inbatak", 0x1BC0, 0x1BFF),
    ("inlepcha", 0x1C00, 0x1C4F),
    ("inolchiki", 0x1C50, 0x1C7F),
    ("incyrillicextendedc", 0x1C80, 0x1C8F),
    ("ingeorgianextended", 0x1C90, 0x1CBF),
    ("insundanesesupplement", 0x1CC0, 0x1CCF),
    ("invedicextensions", 0x1CD0, 0x1CFF),
    ("inphoneticextensions", 0x1D00, 0x1D7F),
    ("inphoneticextensionssupplement", 0x1D80, 0x1DBF),
    ("incombiningdiacriticalmarkssupplement", 0x1DC0, 0x1DFF),
    ("inlatinextendedadditional", 0x1E00, 0x1EFF),
    ("ingreekextended", 0x1F00, 0x1FFF),
    ("ingeneralpunctuation", 0x2000, 0x206F),
    ("insuperscriptsandsubscripts", 0x2070, 0x209F),
    ("incurrencysymbols", 0x20A0, 0x20CF),
    ("incombiningdiacriticalmarksforsymbols", 0x20D0, 0x20FF),
    ("inletterlikesymbols", 0x2100, 0x214F),
    ("innumberforms", 0x2150, 0x218F),
    ("inarrows", 0x2190, 0x21FF),
    ("inmathematicaloperators", 0x2200, 0x22FF),
    ("inmiscellaneoustechnical", 0x2300, 0x23FF),
    ("incontrolpictures", 0x2400, 0x243F),
    ("inopticalcharacterrecognition", 0x2440, 0x245F),
    ("inenclosedalphanumerics", 0x2460, 0x24FF),
    ("inboxdrawing", 0x2500, 0x257F),
    ("inblockelements", 0x2580, 0x259F),
    ("ingeometricshapes", 0x25A0, 0x25FF),
    ("inmiscellaneoussymbols", 0x2600, 0x26FF),
    ("indingbats", 0x2700, 0x27BF),
    ("inmiscellaneousmathematicalsymbolsa", 0x27C0, 0x27EF),
    ("insupplementalarrowsa", 0x27F0, 0x27FF),
    ("inbraillepatterns", 0x2800, 0x28FF),
    ("insupplementalarrowsb", 0x2900, 0x297F),
    ("inmiscellaneousmathematicalsymbolsb", 0x2980, 0x29FF),
    ("insupplementalmathematicaloperators", 0x2A00, 0x2AFF),
    ("inmiscellaneoussymbolsandarrows", 0x2B00, 0x2BFF),
    ("inglagolitic", 0x2C00, 0x2C5F),
    ("inlatinextendedc", 0x2C60, 0x2C7F),
    ("incoptic", 0x2C80, 0x2CFF),
    ("ingeorgiansupplement", 0x2D00, 0x2D2F),
    ("intifinagh", 0x2D30, 0x2D7F),
    ("inethiopicextended", 0x2D80, 0x2DDF),
    ("incyrillicextendeda", 0x2DE0, 0x2DFF),
    ("insupplementalpunctuation", 0x2E00, 0x2E7F),
    ("incjkradicalssupplement", 0x2E80, 0x2EFF),
    ("inkangxiradicals", 0x2F00, 0x2FDF),
    ("inideographicdescriptioncharacters", 0x2FF0, 0x2FFF),
    ("incjksymbolsandpunctuation", 0x3000, 0x303F),
    ("inhiragana", 0x3040, 0x309F),
    ("inkatakana", 0x30A0, 0x30FF),
    ("inbopomofo", 0x3100, 0x312F),
    ("inhangulcompatibilityjamo", 0x3130, 0x318F),
    ("inkanbun", 0x3190, 0x319F),
    ("inbopomofoextended", 0x31A0, 0x31BF),
    ("incjkstrokes", 0x31C0, 0x31EF),
    ("inkatakanaphoneticextensions", 0x31F0, 0x31FF),
    ("inenclosedcjklettersandmonths", 0x3200, 0x32FF),
    ("incjkcompatibility", 0x3300, 0x33FF),
    ("incjkunifiedideographsextensiona", 0x3400, 0x4DBF),
    ("inyijinghexagramsymbols", 0x4DC0, 0x4DFF),
    ("incjkunifiedideographs", 0x4E00, 0x9FFF),
    ("inyisyllables", 0xA000, 0xA48F),
    ("inyiradicals", 0xA490, 0xA4CF),
    ("inlisu", 0xA4D0, 0xA4FF),
    ("invai", 0xA500, 0xA63F),
    ("incyrillicextendedb", 0xA640, 0xA69F),
    ("inbamum", 0xA6A0, 0xA6FF),
    ("inmodifiertoneletters", 0xA700, 0xA71F),
    ("inlatinextendedd", 0xA720, 0xA7FF),
    ("insylotinagri", 0xA800, 0xA82F),
    ("incommonindicnumberforms", 0xA830, 0xA83F),
    ("inphagspa", 0xA840, 0xA87F),
    ("insaurashtra", 0xA880, 0xA8DF),
    ("indevanagariextended", 0xA8E0, 0xA8FF),
    ("inkayahli", 0xA900, 0xA92F),
    ("inrejang", 0xA930, 0xA95F),
    ("inhanguljamoextendeda", 0xA960, 0xA97F),
    ("injavanese", 0xA980, 0xA9DF),
    ("inmyanmarextendedb", 0xA9E0, 0xA9FF),
    ("incham", 0xAA00, 0xAA5F),
    ("inmyanmarextendeda", 0xAA60, 0xAA7F),
    ("intaiviet", 0xAA80, 0xAADF),
    ("inmeeteimayekextensions", 0xAAE0, 0xAAFF),
    ("inethiopicextendeda", 0xAB00, 0xAB2F),
    ("inlatinextendede", 0xAB30, 0xAB6F),
    ("incherokeesupplement", 0xAB70, 0xABBF),
    ("inmeeteimayek", 0xABC0, 0xABFF),
    ("inhangulsyllables", 0xAC00, 0xD7AF),
    ("inhanguljamoextendedb", 0xD7B0, 0xD7FF),
    ("inhighsurrogates", 0xD800, 0xDB7F),
    ("inhighprivateusesurrogates", 0xDB80, 0xDBFF),
    ("inlowsurrogates", 0xDC00, 0xDFFF),
    ("inprivateusearea", 0xE000, 0xF8FF),
    ("incjkcompatibilityideographs", 0xF900, 0xFAFF),
    ("inalphabeticpresentationforms", 0xFB00, 0xFB4F),
    ("inarabicpresentationformsa", 0xFB50, 0xFDFF),
    ("invariationselectors", 0xFE00, 0xFE0F),
    ("inverticalforms", 0xFE10, 0xFE1F),
    ("incombininghalfmarks", 0xFE20, 0xFE2F),
    ("incjkcompatibilityforms", 0xFE30, 0xFE4F),
    ("insmallformvariants", 0xFE50, 0xFE6F),
    ("inarabicpresentationformsb", 0xFE70, 0xFEFF),
    ("inhalfwidthandfullwidthforms", 0xFF00, 0xFFEF),
    ("inspecials", 0xFFF0, 0xFFFF),
    ("inlinearbsyllabary", 0x10000, 0x1007F),
    ("inlinearbideograms", 0x10080, 0x100FF),
    ("inaegeannumbers", 0x10100, 0x1013F),
    ("inancientgreeknumbers", 0x10140, 0x1018F),
    ("inancientsymbols", 0x10190, 0x101CF),
    ("inphaistosdisc", 0x101D0, 0x101FF),
    ("inlycian", 0x10280, 0x1029F),
    ("incarian", 0x102A0, 0x102DF),
    ("incopticepactnumbers", 0x102E0, 0x102FF),
    ("inolditalic", 0x10300, 0x1032F),
    ("ingothic", 0x10330, 0x1034F),
    ("inoldpermic", 0x10350, 0x1037F),
    ("inugaritic", 0x10380, 0x1039F),
    ("inoldpersian", 0x103A0, 0x103DF),
    ("indeseret", 0x10400, 0x1044F),
    ("inshavian", 0x10450, 0x1047F),
    ("inosmanya", 0x10480, 0x104AF),
    ("inosage", 0x104B0, 0x104FF),
    ("inelbasan", 0x10500, 0x1052F),
    ("incaucasianalbanian", 0x10530, 0x1056F),
    ("invithkuqi", 0x10570, 0x105BF),
    ("intodhri", 0x105C0, 0x105FF),
    ("inlineara", 0x10600, 0x1077F),
    ("inlatinextendedf", 0x10780, 0x107BF),
    ("incypriotsyllabary", 0x10800, 0x1083F),
    ("inimperialaramaic", 0x10840, 0x1085F),
    ("inpalmyrene", 0x10860, 0x1087F),
    ("innabataean", 0x10880, 0x108AF),
    ("inhatran", 0x108E0, 0x108FF),
    ("inphoenician", 0x10900, 0x1091F),
    ("inlydian", 0x10920, 0x1093F),
    ("inmeroitichieroglyphs", 0x10980, 0x1099F),
    ("inmeroiticcursive", 0x109A0, 0x109FF),
    ("inkharoshthi", 0x10A00, 0x10A5F),
    ("inoldsoutharabian", 0x10A60, 0x10A7F),
    ("inoldnortharabian", 0x10A80, 0x10A9F),
    ("inmanichaean", 0x10AC0, 0x10AFF),
    ("inavestan", 0x10B00, 0x10B3F),
    ("ininscriptionalparthian", 0x10B40, 0x10B5F),
    ("ininscriptionalpahlavi", 0x10B60, 0x10B7F),
    ("inpsalterpahlavi", 0x10B80, 0x10BAF),
    ("inoldturkic", 0x10C00, 0x10C4F),
    ("inoldhungarian", 0x10C80, 0x10CFF),
    ("inhanifirohingya", 0x10D00, 0x10D3F),
    ("ingaray", 0x10D40, 0x10D8F),
    ("inruminumeralsymbols", 0x10E60, 0x10E7F),
    ("inyezidi", 0x10E80, 0x10EBF),
    ("inarabicextendedc", 0x10EC0, 0x10EFF),
    ("inoldsogdian", 0x10F00, 0x10F2F),
    ("insogdian", 0x10F30, 0x10F6F),
    ("inolduyghur", 0x10F70, 0x10FAF),
    ("inchorasmian", 0x10FB0, 0x10FDF),
    ("inelymaic", 0x10FE0, 0x10FFF),
    ("inbrahmi", 0x11000, 0x1107F),
    ("inkaithi", 0x11080, 0x110CF),
    ("insorasompeng", 0x110D0, 0x110FF),
    ("inchakma", 0x11100, 0x1114F),
    ("inmahajani", 0x11150, 0x1117F),
    ("insharada", 0x11180, 0x111DF),
    ("insinhalaarchaicnumbers", 0x111E0, 0x111FF),
    ("inkhojki", 0x11200, 0x1124F),
    ("inmultani", 0x11280, 0x112AF),
    ("inkhudawadi", 0x112B0, 0x112FF),
    ("ingrantha", 0x11300, 0x1137F),
    ("intulutigalari", 0x11380, 0x113FF),
    ("innewa", 0x11400, 0x1147F),
    ("intirhuta", 0x11480, 0x114DF),
    ("insiddham", 0x11580, 0x115FF),
    ("inmodi", 0x11600, 0x1165F),
    ("inmongoliansupplement", 0x11660, 0x1167F),
    ("intakri", 0x11680, 0x116CF),
    ("inmyanmarextendedc", 0x116D0, 0x116FF),
    ("inahom", 0x11700, 0x1174F),
    ("indogra", 0x11800, 0x1184F),
    ("inwarangciti", 0x118A0, 0x118FF),
    ("indivesakuru", 0x11900, 0x1195F),
    ("innandinagari", 0x119A0, 0x119FF),
    ("inzanabazarsquare", 0x11A00, 0x11A4F),
    ("insoyombo", 0x11A50, 0x11AAF),
    ("inunifiedcanadianaboriginalsyllabicsextendeda", 0x11AB0, 0x11ABF),
    ("inpaucinhau", 0x11AC0, 0x11AFF),
    ("indevanagariextendeda", 0x11B00, 0x11B5F),
    ("insunuwar", 0x11BC0, 0x11BFF),
    ("inbhaiksuki", 0x11C00, 0x11C6F),
    ("inmarchen", 0x11C70, 0x11CBF),
    ("inmasaramgondi", 0x11D00, 0x11D5F),
    ("ingunjalagondi", 0x11D60, 0x11DAF),
    ("inmakasar", 0x11EE0, 0x11EFF),
    ("inkawi", 0x11F00, 0x11F5F),
    ("inlisusupplement", 0x11FB0, 0x11FBF),
    ("intamilsupplement", 0x11FC0, 0x11FFF),
    ("incuneiform", 0x12000, 0x123FF),
    ("incuneiformnumbersandpunctuation", 0x12400, 0x1247F),
    ("inearlydynasticcuneiform", 0x12480, 0x1254F),
    ("incyprominoan", 0x12F90, 0x12FFF),
    ("inegyptianhieroglyphs", 0x13000, 0x1342F),
    ("inegyptianhieroglyphformatcontrols", 0x13430, 0x1345F),
    ("inegyptianhieroglyphsextendeda", 0x13460, 0x143FF),
    ("inanatolianhieroglyphs", 0x14400, 0x1467F),
    ("ingurungkhema", 0x16100, 0x1613F),
    ("inbamumsupplement", 0x16800, 0x16A3F),
    ("inmro", 0x16A40, 0x16A6F),
    ("intangsa", 0x16A70, 0x16ACF),
    ("inbassavah", 0x16AD0, 0x16AFF),
    ("inpahawhhmong", 0x16B00, 0x16B8F),
    ("inkiratrai", 0x16D40, 0x16D7F),
    ("inmedefaidrin", 0x16E40, 0x16E9F),
    ("inmiao", 0x16F00, 0x16F9F),
    ("inideographicsymbolsandpunctuation", 0x16FE0, 0x16FFF),
    ("intangut", 0x17000, 0x187FF),
    ("intangutcomponents", 0x18800, 0x18AFF),
    ("inkhitansmallscript", 0x18B00, 0x18CFF),
    ("intangutsupplement", 0x18D00, 0x18D7F),
    ("inkanaextendedb", 0x1AFF0, 0x1AFFF),
    ("inkanasupplement", 0x1B000, 0x1B0FF),
    ("inkanaextendeda", 0x1B100, 0x1B12F),
    ("insmallkanaextension", 0x1B130, 0x1B16F),
    ("innushu", 0x1B170, 0x1B2FF),
    ("induployan", 0x1BC00, 0x1BC9F),
    ("inshorthandformatcontrols", 0x1BCA0, 0x1BCAF),
    ("insymbolsforlegacycomputingsupplement", 0x1CC00, 0x1CEBF),
    ("inznamennymusicalnotation", 0x1CF00, 0x1CFCF),
    ("inbyzantinemusicalsymbols", 0x1D000, 0x1D0FF),
    ("inmusicalsymbols", 0x1D100, 0x1D1FF),
    ("inancientgreekmusicalnotation", 0x1D200, 0x1D24F),
    ("inkaktoviknumerals", 0x1D2C0, 0x1D2DF),
    ("inmayannumerals", 0x1D2E0, 0x1D2FF),
    ("intaixuanjingsymbols", 0x1D300, 0x1D35F),
    ("incountingrodnumerals", 0x1D360, 0x1D37F),
    ("inmathematicalalphanumericsymbols", 0x1D400, 0x1D7FF),
    ("insuttonsignwriting", 0x1D800, 0x1DAAF),
    ("inlatinextendedg", 0x1DF00, 0x1DFFF),
    ("inglagoliticsupplement", 0x1E000, 0x1E02F),
    ("incyrillicextendedd", 0x1E030, 0x1E08F),
    ("innyiakengpuachuehmong", 0x1E100, 0x1E14F),
    ("intoto", 0x1E290, 0x1E2BF),
    ("inwancho", 0x1E2C0, 0x1E2FF),
    ("innagmundari", 0x1E4D0, 0x1E4FF),
    ("inolonal", 0x1E5D0, 0x1E5FF),
    ("inethiopicextendedb", 0x1E7E0, 0x1E7FF),
    ("inmendekikakui", 0x1E800, 0x1E8DF),
    ("inadlam", 0x1E900, 0x1E95F),
    ("inindicsiyaqnumbers", 0x1EC70, 0x1ECBF),
    ("inottomansiyaqnumbers", 0x1ED00, 0x1ED4F),
    ("inarabicmathematicalalphabeticsymbols", 0x1EE00, 0x1EEFF),
    ("inmahjongtiles", 0x1F000, 0x1F02F),
    ("indominotiles", 0x1F030, 0x1F09F),
    ("inplayingcards", 0x1F0A0, 0x1F0FF),
    ("inenclosedalphanumericsupplement", 0x1F100, 0x1F1FF),
    ("inenclosedideographicsupplement", 0x1F200, 0x1F2FF),
    ("inmiscellaneoussymbolsandpictographs", 0x1F300, 0x1F5FF),
    ("inemoticons", 0x1F600, 0x1F64F),
    ("inornamentaldingbats", 0x1F650, 0x1F67F),
    ("intransportandmapsymbols", 0x1F680, 0x1F6FF),
    ("inalchemicalsymbols", 0x1F700, 0x1F77F),
    ("ingeometricshapesextended", 0x1F780, 0x1F7FF),
    ("insupplementalarrowsc", 0x1F800, 0x1F8FF),
    ("insupplementalsymbolsandpictographs", 0x1F900, 0x1F9FF),
    ("inchesssymbols", 0x1FA00, 0x1FA6F),
    ("insymbolsandpictographsextendeda", 0x1FA70, 0x1FAFF),
    ("insymbolsforlegacycomputing", 0x1FB00, 0x1FBFF),
    ("incjkunifiedideographsextensionb", 0x20000, 0x2A6DF),
    ("incjkunifiedideographsextensionc", 0x2A700, 0x2B73F),
    ("incjkunifiedideographsextensiond", 0x2B740, 0x2B81F),
    ("incjkunifiedideographsextensione", 0x2B820, 0x2CEAF),
    ("incjkunifiedideographsextensionf", 0x2CEB0, 0x2EBEF),
    ("incjkunifiedideographsextensioni", 0x2EBF0, 0x2EE5F),
    ("incjkcompatibilityideographssupplement", 0x2F800, 0x2FA1F),
    ("incjkunifiedideographsextensiong", 0x30000, 0x3134F),
    ("incjkunifiedideographsextensionh", 0x31350, 0x323AF),
    ("intags", 0xE0000, 0xE007F),
    ("invariationselectorssupplement", 0xE0100, 0xE01EF),
    ("insupplementaryprivateuseareaa", 0xF0000, 0xFFFFF),
    ("insupplementaryprivateuseareab", 0x100000, 0x10FFFF)
  ]

end Grok.Unicode
