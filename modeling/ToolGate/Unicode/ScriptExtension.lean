/-
Script extensions of code points (Unicode 16.0), in the table text of `CodeSet.decode`. A
character shared by several scripts is in the set of each of them.
-/
import ToolGate.Unicode.CodeSet

namespace ToolGate.Unicode

/-- Each script with the code points used in it. -/
def scriptExtensionTable : List NamedSet := [
  ⟨["adlm", "adlam"],
    "BQ_gBggGQugDPxgDOV-Crkpkh"⟩,
  ⟨["aghb", "caucasianalbanian"],
    "YkgBsgBsgCAOxBzrg"⟩,
  ⟨["ahom"],
    "CFYg6iuk2"⟩,
  ⟨["arab", "arabic"],
    "BQgkhG2hBhCwBvHw-hhlCqh8FavgDPxgBTIuDywN8iB1ngBgvDwkhEmfj7Cbk-CjiB3jBXYgjh6hhhgighphjh" ++
    "ghgmgkghghghihhhgighghghghghhhgijhmhjhjhghphwlihkhwB0h"⟩,
  ⟨["armi", "imperialaramaic"],
    "CCCg1ho"⟩,
  ⟨["armn", "armenian"],
    "YogRoBliBxiiBdMjk"⟩,
  ⟨["avst", "avestan"],
    "F3gLL4hBXGuB1jm"⟩,
  ⟨["bali", "balinese"],
    "GYgCshBx"⟩,
  ⟨["bamu", "bamum"],
    "BJVgC3BQIoR4"⟩,
  ⟨["bass", "bassavah"],
    "CaWw9il"⟩,
  ⟨["batk", "batak"],
    "GegBzoj"⟩,
  ⟨["beng", "bengali"],
    "V8gBU0hxh6jhnihi1hmhgjjioihijogkhhki4EWxghgihhgogogigkgiiBCf5g"⟩,
  ⟨["bhks", "bhaiksuki"],
    "CHAgohBshtq8"⟩,
  ⟨["bopo", "bopomofo"],
    "WnghitgwhLI1ikphsqjigmgGjgpBqDw_BTElhI6k"⟩,
  ⟨["brah", "brahmi"],
    "CEAgCtkBjpg"⟩,
  ⟨["brai", "braille"],
    "KAgH_"⟩,
  ⟨["bugi", "buginese"],
    "GQg7ihBDdvg"⟩,
  ⟨["buhd", "buhid"],
    "FZ1hpz"⟩,
  ⟨["cakm", "chakma"],
    "CPmpBSwpCAF2B0hx"⟩,
  ⟨["cans", "canadianaboriginal"],
    "FAgT_RwClCAN6v"⟩,
  ⟨["cari", "carian"],
    "F3gHdigigDOzgBVDuBw"⟩,
  ⟨["cham"],
    "BKQgB2ptipij"⟩,
  ⟨["cher", "cherokee"],
    "Ygihgmh2hrhEDuC1ilBFbyCv"⟩,
  ⟨["chrs", "chorasmian"],
    "CDdw7"⟩,
  ⟨["copt", "coptic", "qaac"],
    "F3gSogjhhgDshDstKEwDzlmI3gBVGo7"⟩,
  ⟨["cpmn", "cyprominoan"],
    "CAIghLUuDi"⟩,
  ⟨["cprt", "cypriot"],
    "CAIgikBsjoBWglighBrhhjgig"⟩,
  ⟨["cyrl", "cyrillic"],
    "V8gCjihghghgiglgHuJvFawqFggCsgD_gDfn_Cjgdf8C_VcuhBYQgB9Bhg"⟩,
  ⟨["deva", "devanagari"],
    "V8gBSjCyiBqEawBmhhf2gBBZ_pFm_cQgp"⟩,
  ⟨["diak", "divesakuru"],
    "CGIgmiginhhh9hhirpp"⟩,
  ⟨["dogr", "dogra"],
    "CLkrBHWgpbemB7"⟩,
  ⟨["dsrt", "deseret"],
    "CBAgCv"⟩,
  ⟨["dupl", "duployan"],
    "F3gSvhhg4hKY3gDDOjDqlsjonpin"⟩,
  ⟨["egyp", "egyptianhieroglyphs"],
    "CMAgBC1qDc6"⟩,
  ⟨["elba", "elbasan"],
    "F3gStgCAP6Bn"⟩,
  ⟨["elym", "elymaic"],
    "CDfg2"⟩,
  ⟨["ethi", "ethiopic"],
    "YugDXxCohjimhghjiBohjiBghjimhghjiuhB4hjiCii_j5GPm2pmhmhmhmhmhmhmhmfJilililpmhmCPFxmhjh" ++
    "hhu"⟩,
  ⟨["gara", "garay"],
    "BQsgugjgCBZgBlj8oh"⟩,
  ⟨["geor", "georgian"],
    "F3gBGxgCY2BlhglgiBvCcwBqiic6gDFlBlhglgIjg"⟩,
  ⟨["glag", "glagolitic"],
    "F3gSrghgL-gigIhgCbxgDa-gCdlC_PjgeBrgCOMwmhwimhhhk"⟩,
  ⟨["gong", "gunjalagondi"],
    "F3gCFshCEf6lhhhBkhhhlnp"⟩,
  ⟨["gonm", "masaramgondi"],
    "CLkhCEc6mhhhBrjghhhoop"⟩,
  ⟨["goth", "gothic"],
    "F3gSshigBogBff-6"⟩,
  ⟨["gran", "grantha"],
    "CKxhxhUgtEG8ghh-ijhf2gBcQvjhnihi1hmhhhkhpihiiigmglmimjkDC7hhg"⟩,
  ⟨["grek", "greek"],
    "F3gSohighghgqgBugigBqnijhgkghghihghzhB-uvGJmkBykkkC0iJ-1iliBlilinhghghgh-iB0huhtilhyii" ++
    "hoC-gGogBCR-gVO6CuxgBUC_Cl"⟩,
  ⟨["gujr", "gujarati"],
    "CKxhxhI7ihohih1hmhhhkiphihiigvjirnmBHJwp"⟩,
  ⟨["gukh", "gurungkhema"],
    "CLlgCVc6B5"⟩,
  ⟨["guru", "gurmukhi"],
    "CKxhxhE7ihlkhi1hmhhhhhhighkkhiijgnjhgnwBHN5p"⟩,
  ⟨["hang", "hangul"],
    "EIgH_HQhikphsuimgGjgB1C9Dx-Ch-dXh8UjKdjs2kBwJSphI6kB6-jlililii"⟩,
  ⟨["hani", "han"],
    "F3gLOo5hC4sG16vhihshshsigmoF7gE0vBgBlpgBwBnB4BwvrBzgC44qkDg-hGN_CgUP_BYgnUP4LtiDpbrhI6" ++
    "kcD8hshYbuxHW-hDNuBJW_BgEB5mG9iFUhuHJwvTtCNiQ9BPiEaqlEC_"⟩,
  ⟨["hano", "hanunoo"],
    "FZg2"⟩,
  ⟨["hatr", "hatran"],
    "CCHgyhhlk"⟩,
  ⟨["hebr", "hebrew"],
    "YnhUoB2o6klBdJo5hkhghhhhhp"⟩,
  ⟨["hira", "hiragana"],
    "MAhikphswlhgkhjC1inC6hBTKohI6kqgBthBMDhI-yg9iQFtg"⟩,
  ⟨["hluw", "anatolianhieroglyphs"],
    "CRAgSm"⟩,
  ⟨["hmng", "pahawhhmong"],
    "CaYgClqphmh0ly"⟩,
  ⟨["hmnp", "nyiakengpuachuehmong"],
    "DYIgBsjtipkh"⟩,
  ⟨["hung", "oldhungarian"],
    "IC6gigDOzgvgBXR-BytBynl"⟩,
  ⟨["ital", "olditalic"],
    "CAYgBjpi"⟩,
  ⟨["java", "javanese"],
    "BKMgCthqkh"⟩,
  ⟨["kali", "kayahli"],
    "BKIgBv"⟩,
  ⟨["kana", "katakana"],
    "Ylg9gLG9ikphswlhgkhC7jjC_HwvGwBuhC3BSXthI6B-BMCwjhmhhhgI_iByguj"⟩,
  ⟨["kawi"],
    "CHYgwhBoj8"⟩,
  ⟨["khar", "kharoshthi"],
    "CCQgjhhlnhih8iikpno"⟩,
  ⟨["khmr", "khmer"],
    "FcgC9ipmpPm_"⟩,
  ⟨["khoj", "khojki"],
    "CXmpBHKgpaOmxhBu"⟩,
  ⟨["kits", "khitansmallscript"],
    "CbfkgGY7O1Bpg"⟩,
  ⟨["knda", "kannada"],
    "CKxhxhY6shih2hphkiohihjnhmhhjiphiDe8ghhmg3ghgBCZ7l"⟩,
  ⟨["krai", "kiratrai"],
    "CbKgB5"⟩,
  ⟨["kthi", "kaithi"],
    "CLmpJGhgeP-paCmCiqg"⟩,
  ⟨["lana", "taitham"],
    "GRgB-h8iqmpmt"⟩,
  ⟨["laoo", "lao"],
    "DUhhhghkh3hgh2ikhghmhpij"⟩,
  ⟨["latn", "latin"],
    "Ch5m5Bvgsgigl2h-hOgjgqghihgpghgmk7uhhhgvinhhhBmglgksI1hBGqhBdogDAkBlmBwljlshClB5gnH_Jv" ++
    "gChgtgwsCzgB5hmg7gxBoCW3_M3geHon6DljCiihhghn1tJugQhBqhohjTc2mBA65m5CBllhBphoBVal-ml"⟩,
  ⟨["lepc", "lepcha"],
    "HAgB3juji"⟩,
  ⟨["limb", "limbu"],
    "CLlgDc6-hrkrkgjr"⟩,
  ⟨["lina", "lineara"],
    "CAInBsBGsJ2p1qn"⟩,
  ⟨["linb", "linearb"],
    "CAAgrh5hyhhhuitBiD6likBsjo"⟩,
  ⟨["lisu"],
    "V8gwgLJ8hdGkBveVwg"⟩,
  ⟨["lyci", "lycian"],
    "IC6gBYRl8"⟩,
  ⟨["lydi", "lydian"],
    "F3gLL5gBWXu5lg"⟩,
  ⟨["mahj", "mahajani"],
    "F3gCFsrBHWgpaI2Bm"⟩,
  ⟨["maka", "makasar"],
    "CHXg4"⟩,
  ⟨["mand", "mandaic"],
    "BSggP_7ig"⟩,
  ⟨["mani", "manichaean"],
    "BSggCBD_Bmkr"⟩,
  ⟨["marc", "marchen"],
    "CHDw_i1ht"⟩,
  ⟨["medf", "medefaidrin"],
    "CbSgC6"⟩,
  ⟨["mend", "mendekikakui"],
    "DaAgGkiv"⟩,
  ⟨["merc", "meroiticcursive"],
    "CCNg3kziBt"⟩,
  ⟨["mero", "meroitichieroglyphs"],
    "IC9gBaJi_"⟩,
  ⟨["mlym", "malayalam"],
    "CKxhxhc6shihByhihlkvi5Da6g3gBCZ9i"⟩,
  ⟨["modi"],
    "BKBwpbOmCkrp"⟩,
  ⟨["mong", "mongolian"],
    "GAg5mC4nBqBckgDexhljBZS0s"⟩,
  ⟨["mroo", "mro"],
    "CaSg-hpkh"⟩,
  ⟨["mtei", "meeteimayek"],
    "BKXg2GpBtip"⟩,
  ⟨["mult", "multani"],
    "CTmpCCAwmhghjhuhq"⟩,
  ⟨["mymr", "myanmar"],
    "EAgE_BGEugFx-Dh_bCwz"⟩,
  ⟨["nagm", "nagmundari"],
    "DZGwBp"⟩,
  ⟨["nand", "nandinagari"],
    "CKxgyhcgpDf5gogngBCZ1lcLqniBtiq"⟩,
  ⟨["narb", "oldnortharabian"],
    "CCUg_"⟩,
  ⟨["nbat", "nabataean"],
    "CCEg-oo"⟩,
  ⟨["newa"],
    "CKxhEcighhpgmghghgBdYyC7hk"⟩,
  ⟨["nkoo", "nko"],
    "BQsgugjgNgB6iiBdJ-h"⟩,
  ⟨["nshu", "nushu"],
    "CbfhgQMuMr"⟩,
  ⟨["ogam", "ogham"],
    "FUg8"⟩,
  ⟨["olck", "olchiki"],
    "HCwBv"⟩,
  ⟨["onao", "olonal"],
    "CLkhDXDqBqkg"⟩,
  ⟨["orkh", "oldturkic"],
    "IC6gDO1gBXOvCo"⟩,
  ⟨["orya", "oriya"],
    "CKxhxhM7ihnihi1hmhhhkioihiinikhhkixELig3g"⟩,
  ⟨["osge", "osage"],
    "YhgigmgCsgCAK3BjkBj"⟩,
  ⟨["osma", "osmanya"],
    "CBEg9ip"⟩,
  ⟨["ougr", "olduyghur"],
    "BSggCBFxgBD95"⟩,
  ⟨["palm", "palmyrene"],
    "CCDg_"⟩,
  ⟨["pauc", "paucinhau"],
    "CGWgB4"⟩,
  ⟨["perm", "oldpermic"],
    "F3gSogliqgLvgBfWsBq"⟩,
  ⟨["phag", "phagspa"],
    "GAihhgCBpgDeygeB9B3"⟩,
  ⟨["phli", "inscriptionalpahlavi"],
    "CCbgyln"⟩,
  ⟨["phlp", "psalterpahlavi"],
    "BSggCBJ_xnjsm"⟩,
  ⟨["phnx", "phoenician"],
    "CCIg7jg"⟩,
  ⟨["plrd", "miao"],
    "CbYgCqkB4nw"⟩,
  ⟨["prti", "inscriptionalparthian"],
    "CCag1in"⟩,
  ⟨["rjng", "rejang"],
    "BKJwBjrg"⟩,
  ⟨["rohg", "hanifirohingya"],
    "BQsgugjgBggEzgCBRrBnop"⟩,
  ⟨["runr", "runic"],
    "FVgC4"⟩,
  ⟨["samr", "samaritan"],
    "CAgBtiuJPyg"⟩,
  ⟨["sarb", "oldsoutharabian"],
    "CCTg_"⟩,
  ⟨["saur", "saurashtra"],
    "BKEgClor"⟩,
  ⟨["sgnw", "signwriting"],
    "DWAgUrvkhu"⟩,
  ⟨["shaw", "shavian"],
    "F3gCAc4Bv"⟩,
  ⟨["shrd", "sharada"],
    "CKxgEclghgihigpgigBCailigaKnC_"⟩,
  ⟨["sidd", "siddham"],
    "CFMgB1iBl"⟩,
  ⟨["sind", "khudawadi"],
    "CLkhBHWqpaT2B6lp"⟩,
  ⟨["sinh", "sinhala"],
    "CLkhBA7ihxj3hohgimjgklhghnmpiiDX9gBdHuz"⟩,
  ⟨["sogd", "sogdian"],
    "BSggCCHvBp"⟩,
  ⟨["sogo", "oldsogdian"],
    "CDYgBn"⟩,
  ⟨["sora", "sorasompeng"],
    "CEGw4np"⟩,
  ⟨["soyo", "soyombo"],
    "CGSwCy"⟩,
  ⟨["sund", "sundanese"],
    "GcgB_Ign"⟩,
  ⟨["sunu", "sunuwar"],
    "Yghhgpgig8gjgCGEuBhup"⟩,
  ⟨["sylo", "sylotinagri"],
    "CLkhEgpBHQwBs"⟩,
  ⟨["syrc", "syriac"],
    "Yjhihhg4inhhhW6guhigBggqq6gEvthB7iiIwqFMtghg"⟩,
  ⟨["tagb", "tagbanwa"],
    "FZ1hBpshihh"⟩,
  ⟨["takr", "takri"],
    "CLkhBHWqpbSmB5mp"⟩,
  ⟨["tale", "taile"],
    "YghlhjgDJzpCIm9ik"⟩,
  ⟨["talu", "newtailue"],
    "GMgBrk5mqjh"⟩,
  ⟨["taml", "tamil"],
    "CKxhxhQ8hhljihjjhhghhjhjijrkkjihjigmgu0EG_gBDA4gaQtghgB3hDEjBxtg"⟩,
  ⟨["tang", "tangut"],
    "LfwvPvgCPPwg_Ff3oX_Qgo"⟩,
  ⟨["tavt", "taiviet"],
    "BKUgCi4k"⟩,
  ⟨["telu", "telugu"],
    "CKxhxhU6shih2hviohihjnhhiigijipnoEC1hhghg3g"⟩,
  ⟨["tfng", "tifinagh"],
    "Yighghj5gKQsB3nhug"⟩,
  ⟨["tglg", "tagalog"],
    "FYg1pg1h"⟩,
  ⟨["thaa", "thaana"],
    "BQsguhigCgpI2BxBdSggqg"⟩,
  ⟨["thai"],
    "V8g6gBrgBtgCWvB5l7"⟩,
  ⟨["tibt", "tibetan"],
    "DYgCnhBjkBmhBjhuhmkhIBtj"⟩,
  ⟨["tirh", "tirhuta"],
    "CKxhxhEbvgsgvgBCZ9pbCmCnop"⟩,
  ⟨["tnsa", "tangsa"],
    "CaTwCuhp"⟩,
  ⟨["todr", "todhri"],
    "YhgigigpghgCqgCAThBz"⟩,
  ⟨["toto"],
    "V8gDXez-"⟩,
  ⟨["tutg", "tulutigalari"],
    "DHmpEAighgBCZ7lF7gaUuphgighBlhphgighjhphhoh"⟩,
  ⟨["ugar", "ugaritic"],
    "CAcg9hg"⟩,
  ⟨["vaii", "vai"],
    "BJIgJr"⟩,
  ⟨["vith", "vithkuqi"],
    "CBLwqhuhmhhhqhuhmhh"⟩,
  ⟨["wara", "warangciti"],
    "CGFgCysg"⟩,
  ⟨["wcho", "wancho"],
    "DYWgB5lg"⟩,
  ⟨["xpeo", "oldpersian"],
    "CAdgBjkt"⟩,
  ⟨["xsux", "cuneiform"],
    "CIAgc5DmDuhkrGj"⟩,
  ⟨["yezi", "yezidi"],
    "BQsgugjgCgpCCA2Bphiih"⟩,
  ⟨["yiii", "yi"],
    "MAhhlpinG_gbYkBEsjB2WU6k"⟩,
  ⟨["zanb", "zanabazarsquare"],
    "CGQgCn"⟩,
  ⟨["zinh", "inherited", "qaai"],
    "YvgighujmigivhhhxhkhjBPwhEK7-XzB1hghkQshGi_BXIwvwtevgBTIiBti2Rgixnim-jYLayHv"⟩,
  ⟨["zyyy", "common"],
    "gCg6l6Buhrhhhk3g_gOhihphgjghohghllkizD-gmghgT9gG3gQkgBK8gM1jEBnriBgh-hphhhmhqjqhuxBgB_" ++
    "Blhiilh6hwBpikU52q1c_IgTzi_hDoQg2h3iphjhgh5Nigjgtgtg1gQx3_gBxusjFhplC__gGOgB_WIo5Dmiew" ++
    "guhUVkp20irhyhjEzgh_6l6lD_mhmqkMysBzBsBSQjH5mNzE8DzB8H1qBmiB9jwohn9kB8G1zszsC27mEnC0hC" ++
    "mhhigihijhrhghmhCghjinhmh7hjhkhgjmhKziJjiBxFDxCjCsB8WiBrkDjsuiuhuhBkqFtB45hhtBrko3lE6e" ++
    "3kwjsjD2kC-mrkgvrkB3opmBno9irkhB-KzstisjplB3nuiqmonEyhDlYBAng-C_"⟩]

end ToolGate.Unicode
