/-
Scripts of code points (Unicode 16.0), in the table text of `CodeSet.decode`. Every character
has one script; code points without one are in no set of the table.
-/
import ToolGate.Unicode.CodeSet

namespace ToolGate.Unicode

/-- Each script with the code points written in it. -/
def scriptTable : List NamedSet := [
  ⟨["adlm", "adlam"],
    "DaIgCrkpkh"⟩,
  ⟨["aghb", "caucasianalbanian"],
    "CBJwBzrg"⟩,
  ⟨["ahom"],
    "CFYg6iuk2"⟩,
  ⟨["arab", "arabic"],
    "BQgkhlhthih_hpr5hDrhBhCwBvHw-hhlCqh8BcSwDywLqiCviB1ngBgvDwkhEmDbj-CjiB3jBXYgjh6hhhgigh" ++
    "phjhghgmgkghghghihhhgighghghghghhhgijhmhjhjhghphwlihkhwB0h"⟩,
  ⟨["armi", "imperialaramaic"],
    "CCCg1ho"⟩,
  ⟨["armn", "armenian"],
    "BJxBliBxiiBdMjk"⟩,
  ⟨["avst", "avestan"],
    "CCYgB1jm"⟩,
  ⟨["bali", "balinese"],
    "GYgCshBx"⟩,
  ⟨["bamu", "bamum"],
    "BJVgC3BQIoR4"⟩,
  ⟨["bass", "bassavah"],
    "CaWw9il"⟩,
  ⟨["batk", "batak"],
    "GegBzoj"⟩,
  ⟨["beng", "bengali"],
    "CMgjhnihi1hmhgjjioihijogkhhki4"⟩,
  ⟨["bhks", "bhaiksuki"],
    "CHAgohBshtq8"⟩,
  ⟨["bopo", "bopomofo"],
    "XqhLQ5BqDw_"⟩,
  ⟨["brah", "brahmi"],
    "CEAgCtkBjpg"⟩,
  ⟨["brai", "braille"],
    "KAgH_"⟩,
  ⟨["bugi", "buginese"],
    "GQg7ih"⟩,
  ⟨["buhd", "buhid"],
    "Fagz"⟩,
  ⟨["cakm", "chakma"],
    "CEIgB0hx"⟩,
  ⟨["cans", "canadianaboriginal"],
    "FAgT_RwClCAN6v"⟩,
  ⟨["cari", "carian"],
    "CAVgBw"⟩,
  ⟨["cham"],
    "BKQgB2ptipij"⟩,
  ⟨["cher", "cherokee"],
    "EdgC1ilBFbyCv"⟩,
  ⟨["chrs", "chorasmian"],
    "CDdw7"⟩,
  ⟨["copt", "coptic", "qaac"],
    "fitKEwDzlm"⟩,
  ⟨["cpmn", "cyprominoan"],
    "CLcwDi"⟩,
  ⟨["cprt", "cypriot"],
    "CCAglighBrhhjgig"⟩,
  ⟨["cyrl", "cyrillic"],
    "BAgEkiFoFawqFggCsgEDn_eCgC_VcuhBYQgB9Bhg"⟩,
  ⟨["deva", "devanagari"],
    "CIgCwkui5BHbg_cQgp"⟩,
  ⟨["diak", "divesakuru"],
    "CGIgmiginhhh9hhirpp"⟩,
  ⟨["dogr", "dogra"],
    "CGAgB7"⟩,
  ⟨["dsrt", "deseret"],
    "CBAgCv"⟩,
  ⟨["dupl", "duployan"],
    "DPAgDqlsjonpij"⟩,
  ⟨["egyp", "egyptianhieroglyphs"],
    "CMAgBC1qDc6"⟩,
  ⟨["elba", "elbasan"],
    "CBIgBn"⟩,
  ⟨["elym", "elymaic"],
    "CDfg2"⟩,
  ⟨["ethi", "ethiopic"],
    "EQgCohjimhghjiBohjiBghjimhghjiuhB4hjiCii_j5GPm2pmhmhmhmhmhmhmhmfJilililpmhmCPFxmhjhhhu"⟩,
  ⟨["gara", "garay"],
    "CDKgBlj8oh"⟩,
  ⟨["geor", "georgian"],
    "EFgBlhglgiBqhjCcwBqiiECgBlhglg"⟩,
  ⟨["glag", "glagolitic"],
    "LAgC_DMdgmhwimhhhk"⟩,
  ⟨["gong", "gunjalagondi"],
    "CHLglhhhBkhhhlnp"⟩,
  ⟨["gonm", "masaramgondi"],
    "CHIgmhhhBrjghhhoop"⟩,
  ⟨["goth", "gothic"],
    "CAZw6"⟩,
  ⟨["gran", "grantha"],
    "CEYgjhnihi1hmhhhkioihiiigmglmimjk"⟩,
  ⟨["grek", "greek"],
    "bwjhiijhgkghghihghzhB-uvGJmkBykkkC0gKg1iliBlilinhghghgh-iB0huhtilhyiihoJngBCR-gVO6Cuxg" ++
    "BUC_Cl"⟩,
  ⟨["gujr", "gujarati"],
    "CUhihohih1hmhhhkiphihiigvjirnm"⟩,
  ⟨["gukh", "gurungkhema"],
    "CYIgB5"⟩,
  ⟨["guru", "gurmukhi"],
    "CQhihlkhi1hmhhhhhhighkkhiijgnjhgnw"⟩,
  ⟨["hang", "hangul"],
    "EIgH_HRuhIhC9Dx-Ch-dXh8UjKdjs2kBwJdk-jlililii"⟩,
  ⟨["hani", "han"],
    "LUg5hC4sG1Bvghg5oujekGN_CgUP_WIgLtiDpdIohshBEAuBJW_BgEB5mG9iFUhuHJwvTtCNiQ9BPiEaqlEC_"⟩,
  ⟨["hano", "hanunoo"],
    "FZg0"⟩,
  ⟨["hatr", "hatran"],
    "CCHgyhhlk"⟩,
  ⟨["hebr", "hebrew"],
    "BMxB2o6klBdJo5hkhghhhhhp"⟩,
  ⟨["hira", "hiragana"],
    "MChC1miCfbhI-yg9iQFtg"⟩,
  ⟨["hluw", "anatolianhieroglyphs"],
    "CRAgSm"⟩,
  ⟨["hmng", "pahawhhmong"],
    "CaYgClqphmh0ly"⟩,
  ⟨["hmnp", "nyiakengpuachuehmong"],
    "DYIgBsjtipkh"⟩,
  ⟨["hung", "oldhungarian"],
    "CDEgBytBynl"⟩,
  ⟨["ital", "olditalic"],
    "CAYgBjpi"⟩,
  ⟨["java", "javanese"],
    "BKMgCtipkh"⟩,
  ⟨["kali", "kayahli"],
    "BKIgBthg"⟩,
  ⟨["kana", "katakana"],
    "MFhC5iiHwvGwBuhC3BTAuphBsBMCyjhmhhhgI_iByguj"⟩,
  ⟨["kawi"],
    "CHYgwhBoj8"⟩,
  ⟨["khar", "kharoshthi"],
    "CCQgjhhlnhih8iikpno"⟩,
  ⟨["khmr", "khmer"],
    "FcgC9ipmpPm_"⟩,
  ⟨["khoj", "khojki"],
    "CEQgxhBu"⟩,
  ⟨["kits", "khitansmallscript"],
    "CbfkgGY7O1Bpg"⟩,
  ⟨["knda", "kannada"],
    "DEgshih2hphkiohihjnhmhhjiphi"⟩,
  ⟨["krai", "kiratrai"],
    "CbKgB5"⟩,
  ⟨["kthi", "kaithi"],
    "CEEgCiqg"⟩,
  ⟨["lana", "taitham"],
    "GRgB-h8iqmpmt"⟩,
  ⟨["laoo", "lao"],
    "DUhhhghkh3hgh2ikhghmhpij"⟩,
  ⟨["latn", "latin"],
    "Ch5m5Bvgvgl2h-hOgBnkGQ7BlmBwljlshClChH_LxgtgwsEthmg7gxBoCW3_eViDljCiihhghn1tZwBqhohjTc" ++
    "2mBA65m5CBllhBphoBVal-ml"⟩,
  ⟨["lepc", "lepcha"],
    "HAgB3juji"⟩,
  ⟨["limb", "limbu"],
    "GIg-hrkrkgjr"⟩,
  ⟨["lina", "lineara"],
    "CBQgJ2p1qn"⟩,
  ⟨["linb", "linearb"],
    "CAAgrh5hyhhhuitBiD6"⟩,
  ⟨["lisu"],
    "BJGwBveVwg"⟩,
  ⟨["lyci", "lycian"],
    "CAUg8"⟩,
  ⟨["lydi", "lydian"],
    "CCJg5lg"⟩,
  ⟨["mahj", "mahajani"],
    "CEKwBm"⟩,
  ⟨["maka", "makasar"],
    "CHXg4"⟩,
  ⟨["mand", "mandaic"],
    "CCg7ig"⟩,
  ⟨["mani", "manichaean"],
    "CCWgBmkr"⟩,
  ⟨["marc", "marchen"],
    "CHDw_i1ht"⟩,
  ⟨["medf", "medefaidrin"],
    "CbSgC6"⟩,
  ⟨["mend", "mendekikakui"],
    "DaAgGkiv"⟩,
  ⟨["merc", "meroiticcursive"],
    "CCNg3kziBt"⟩,
  ⟨["mero", "meroitichieroglyphs"],
    "CCMg_"⟩,
  ⟨["mlym", "malayalam"],
    "DIgshihByhihlkvi5"⟩,
  ⟨["modi"],
    "CFQgCkrp"⟩,
  ⟨["mong", "mongolian"],
    "GAghighzmC4nBqBfN1s"⟩,
  ⟨["mroo", "mro"],
    "CaSg-hpkh"⟩,
  ⟨["mtei", "meeteimayek"],
    "BKXg2GpBtip"⟩,
  ⟨["mult", "multani"],
    "CEUgmhghjhuhq"⟩,
  ⟨["mymr", "myanmar"],
    "EAgE_BGKg-Dh_bCwz"⟩,
  ⟨["nagm", "nagmundari"],
    "DZGwBp"⟩,
  ⟨["nand", "nandinagari"],
    "CGNgniBtiq"⟩,
  ⟨["narb", "oldnortharabian"],
    "CCUg_"⟩,
  ⟨["nbat", "nabataean"],
    "CCEg-oo"⟩,
  ⟨["newa"],
    "CFAgC7hk"⟩,
  ⟨["nkoo", "nko"],
    "BegB6ii"⟩,
  ⟨["nshu", "nushu"],
    "CbfhgQMuMr"⟩,
  ⟨["ogam", "ogham"],
    "FUg8"⟩,
  ⟨["olck", "olchiki"],
    "HCwBv"⟩,
  ⟨["onao", "olonal"],
    "DZOwBqkg"⟩,
  ⟨["orkh", "oldturkic"],
    "CDAgCo"⟩,
  ⟨["orya", "oriya"],
    "CYhihnihi1hmhhhkioihiinikhhkix"⟩,
  ⟨["osge", "osage"],
    "CBFwBjkBj"⟩,
  ⟨["osma", "osmanya"],
    "CBEg9ip"⟩,
  ⟨["ougr", "olduyghur"],
    "CDbw5"⟩,
  ⟨["palm", "palmyrene"],
    "CCDg_"⟩,
  ⟨["pauc", "paucinhau"],
    "CGWgB4"⟩,
  ⟨["perm", "oldpermic"],
    "CAawBq"⟩,
  ⟨["phag", "phagspa"],
    "BKCgB3"⟩,
  ⟨["phli", "inscriptionalpahlavi"],
    "CCbgyln"⟩,
  ⟨["phlp", "psalterpahlavi"],
    "CCcgxnjsm"⟩,
  ⟨["phnx", "phoenician"],
    "CCIg7jg"⟩,
  ⟨["plrd", "miao"],
    "CbYgCqkB4nw"⟩,
  ⟨["prti", "inscriptionalparthian"],
    "CCag1in"⟩,
  ⟨["rjng", "rejang"],
    "BKJwBjrg"⟩,
  ⟨["rohg", "hanifirohingya"],
    "CDIgBnop"⟩,
  ⟨["runr", "runic"],
    "FVgCqjq"⟩,
  ⟨["samr", "samaritan"],
    "CAgBtiu"⟩,
  ⟨["sarb", "oldsoutharabian"],
    "CCTg_"⟩,
  ⟨["saur", "saurashtra"],
    "BKEgClor"⟩,
  ⟨["sgnw", "signwriting"],
    "DWAgUrvkhu"⟩,
  ⟨["shaw", "shavian"],
    "CBCwBv"⟩,
  ⟨["shrd", "sharada"],
    "CEMgC_"⟩,
  ⟨["sidd", "siddham"],
    "CFMgB1iBl"⟩,
  ⟨["sind", "khudawadi"],
    "CEVwB6lp"⟩,
  ⟨["sinh", "sinhala"],
    "DMhihxj3hohgimjgklhghnmpiiCAfsz"⟩,
  ⟨["sogd", "sogdian"],
    "CDZwBp"⟩,
  ⟨["sogo", "oldsogdian"],
    "CDYgBn"⟩,
  ⟨["sora", "sorasompeng"],
    "CEGw4np"⟩,
  ⟨["soyo", "soyombo"],
    "CGSwCy"⟩,
  ⟨["sund", "sundanese"],
    "GcgB_Ign"⟩,
  ⟨["sunu", "sunuwar"],
    "CGegBhup"⟩,
  ⟨["sylo", "sylotinagri"],
    "BKAgBs"⟩,
  ⟨["syrc", "syriac"],
    "BYgthB7iiIwq"⟩,
  ⟨["tagb", "tagbanwa"],
    "Fbgshihh"⟩,
  ⟨["takr", "takri"],
    "CFUgB5mp"⟩,
  ⟨["tale", "taile"],
    "GKw9ik"⟩,
  ⟨["talu", "newtailue"],
    "GMgBrk5mqjh"⟩,
  ⟨["taml", "tamil"],
    "Ccihhljihjjhhghhjhjijrkkjihjigmgu0CEelBxtg"⟩,
  ⟨["tang", "tangut"],
    "Cbfgg_Ff3oX_Qgo"⟩,
  ⟨["tavt", "taiviet"],
    "BKUgCi4k"⟩,
  ⟨["telu", "telugu"],
    "DAgshih2hviohihjnhhiigijipno"⟩,
  ⟨["tfng", "tifinagh"],
    "LJwB3nhug"⟩,
  ⟨["tglg", "tagalog"],
    "FYg1pg"⟩,
  ⟨["thaa", "thaana"],
    "BcgBx"⟩,
  ⟨["thai"],
    "DQhB5l7"⟩,
  ⟨["tibt", "tibetan"],
    "DYgCnhBjkBmhBjhuhmkh"⟩,
  ⟨["tirh", "tirhuta"],
    "CFEgCnop"⟩,
  ⟨["tnsa", "tangsa"],
    "CaTwCuhp"⟩,
  ⟨["todr", "todhri"],
    "CBOgBz"⟩,
  ⟨["toto"],
    "DYUw-"⟩,
  ⟨["tutg", "tulutigalari"],
    "CEcgphgighBlhphgighjhphhoh"⟩,
  ⟨["ugar", "ugaritic"],
    "CAcg9hg"⟩,
  ⟨["vaii", "vai"],
    "BJIgJr"⟩,
  ⟨["vith", "vithkuqi"],
    "CBLwqhuhmhhhqhuhmhh"⟩,
  ⟨["wara", "warangciti"],
    "CGFgCysg"⟩,
  ⟨["wcho", "wancho"],
    "DYWgB5lg"⟩,
  ⟨["xpeo", "oldpersian"],
    "CAdgBjkt"⟩,
  ⟨["xsux", "cuneiform"],
    "CIAgc5DmDuhkrGj"⟩,
  ⟨["yezi", "yezidi"],
    "CDUgBphiih"⟩,
  ⟨["yiii", "yi"],
    "BIAgBEsjB2"⟩,
  ⟨["zanb", "zanabazarsquare"],
    "CGQgCn"⟩,
  ⟨["zinh", "inherited", "qaai"],
    "YgDvI1hOkq6gXgjEK7-QhihshmkgmgjhGmB_QshGiBgDZ5jDrhBTLlvwtevgHigEC6gBOekBti2Rgixnim-jYL" ++
    "ayHv"⟩,
  ⟨["zyyy", "common"],
    "gCg6l6Buhuhk3g_gOhBmlkizD0gpgmghgT9gmgugjgBggE8gQkgEhhBG5gM1jJigBPviCnhGrhhgBGtgtgnjhl" ++
    "hiigYlriC2hqjqhuxBgB_Blhiilh6hwBpikU52q1c_IgTzi_hDoQgC9My0hgh4vnkjC7hjgC6hEzvBgBlpgBwB" ++
    "__CwBvgC4FnGOgB_WIgBhDmiFlpH0gFggMrguhUOyhGwp2BihyhjEzgh_6l6qqgBthCgmhmqkIiikBsjoCwsBz" ++
    "BsHk6BONkjDa8H5mNzE8DzB8H1qBmiB9jwohn9kB8G1zszsC2p4EnC0hCmhhigihijhrhghmhCghjinhmh7hjh" ++
    "khgjmhKziJjiBxFDxCjCsB8WiBrkDjsuiuhuhBkqFtB45hhtBrkonhulE6e3kwjsjD2kC-mrkgvrkB3opmBno9" ++
    "irkhB-KzstisjplB3nuiqmonEyhDlYBAng-C_"⟩]

end ToolGate.Unicode
