/-
Binary properties of code points (Unicode 16.0), in the table text of `CodeSet.decode`.
-/
import ToolGate.Unicode.CodeSet

namespace ToolGate.Unicode

/-- Each binary property with the code points that have it. -/
def propertyTable : List NamedSet := [
  ⟨["ahex", "asciihexdigit"],
    "Bwpnl6l"⟩,
  ⟨["alpha", "alphabetic"],
    "Ch5m5Bvgqgkgl2h-hOpkruknghgC2g9xhhijhgmghihghzhCyhEqoFlhBligmBoBnthghhhhhgo6kj9qlB3hmu" ++
    "DlhnknkiqiigwBvtDk4Bgphkgl3iyz4nql3hlogoBpqrjmmCrhvhikutyhnihi1hmhgjjjnihihhgogkhhkshq" ++
    "gkihlkhi1hmhhhhhhkkkhihkgnjhgxlrihohih1hmhhhkjohihhjgvj1jkihnihi1hmhhhkjnihihphkhhktgw" ++
    "hhljihjjhhghhjhjijrkkjihijgmgBoshih2hvjnhihiohhiigij8jhnhih2hphkjnhihiohmhhjtisshihBoi" ++
    "nhihihgljnk2lhihxj3hohgimolhghnyhtB5lmmgBzhhghkh3hghyhiikhgmgujBggB_nhBjkykvhBjCjB2hgi" ++
    "kwB_qjiBlhglgiBqhKshjimhghjiBohjiBghjimhghjiuhB4hjiCiBlvwC1iljTriwh5lCqjqnzr0szsshihhs" ++
    "BziyugkgCjC4nBqlClq-hrko39ikrBrk5B27kB-izByg3hriBxBzhuhnBzBpijqBrhquB22iqBjiqlBqiiBpjh" ++
    "lhhjglF_zBhrI1iliBlilinhghghgh-iB0hmhgjihmjjilkslihmD0gtgwsDlgkgiphgjkmghghghjhqijlkkg" ++
    "xBoZtBzBY2HkmjjhsBlhglgiB3ngw2pmhmhmhmhmhmhmhmh_BvgO1i5onkikkC1mihC5hjlBqhC9x_BwvQgGN_" ++
    "CgVUsCjBtiIsjvqh0BulnjDwBnoiDmiCiihhghn1zhBg4BzsCjhgBsljghiqBglBit8jByhrvgwvqkhB2pty2j" ++
    "Ckhghg4iivijrlililpmhmhBqhtmD61Kdjs2kBwIIkLtiDpBmmsklrhshkhghhhhhDrBhLqyB_iB1BorD0khEm" ++
    "Bk5m5rC4jlililiiBjrh5hyhhhuitBiD6ClB0Ir8jBwBv_t9lBql9iBjknhkBqE9yBjkBjkBnoBzsqhuhmhhhq" ++
    "huhmhhjBzsJ2p1qn4lhBphoCllighBrhhjgi2q2p-Chyhhq1q5CmB3mhCgjhhlnhih8Bq8j8Bjnh77B1q1qytx" ++
    "DuCoB3BytBytBnBi7jgl2H6BphhjhwiB3gj8qgo1BqxBu072pClBrkqB4pgt43ByxjoBijgpB_hjphqghgBjxh" ++
    "BhigmjB-mhghjhuhpnB43jhnihi1hmhhhkjnihihjgmglm8phgighBlhphgighjhhjghgBsChhihj0i-Chihhg" ++
    "F4B1im5lBiB-hgjgB7B1igCn6it1mF5B4DnB__niginhhh9hhihijC9niBtilhghh7ByipxCnlgyCoGnBg_ohB" ++
    "shmhgBx9i1htCpmhhhBrjghhhihgih4lhhhBkhhhjhgKn2pwhBojiDvgCvc5DmDuxGjCSsDgvBBvxl5Dc6lSmG" ++
    "V5BuBWxR4n-xCux9yBvwj_0lyNwBsGzB_EgCqkB4nwCghhgshuFf3oBG1BppIXnjhmhhhJivg9iigujoMrCIkD" ++
    "qlsjonpkgFbhC0hCmhhigihijhrhghmhCghjinhmh7hjhkhgjmhKzi4h4h-h4h-h4h-h4h-h4hnBZ0-mlG1mhw" ++
    "imhhhklB9BhgDwBsqmwgKh9yBrPk7Hk9igPvmhjhhhuhGkB7CjjgjgBF0jh6hhhgighphjhghgmgkghghghihh" ++
    "hgighghghghghhhgijhmhjhjhghphwlihkhwT05m5m5DT2BJW_BgEB5mG9iFUhuHJwvTtCNiQ9BPiEaqlEC_"⟩,
  ⟨["bidic", "bidicontrol"],
    "BQ8gGPxh6kB3j"⟩,
  ⟨["bidim", "bidimirrored"],
    "Bohyghg8ghg9ghgBtgvgDT-jBa9hCM8hqhB2huhFxgGgjjljgjhjjhjhghgkolghxljphhghnh_ijlgphiylhp" ++
    "kihk3ivoj0hnhBB9tCqgijhhhiljlijtMz1ilhtognljgkkhhikkghiihqlihsyhjighgighjlhmi4hrhkjhhi" ++
    "hkBqinhBnlghgjklikgjkhgIggQjjjhhhuhipBrnNrpinBTR9llhFihyghg8ghg9ghghhhhBVb3gB5gB5gB5gB" ++
    "5g"⟩,
  ⟨["ci", "caseignorable"],
    "BngmgrgBjghgCngkghgkgihP3F_khkgphhgH7mGvglgBxBshghhhhhgBsgrlqqhgBjgq0wgDlnhphjBhghg-6C" ++
    "7qB6qkgig43BriBsgnhloBpB5B3ghgknkgjmqhtgvgB6gkjog0h6gihB5gkhkhiijg-hjgrhB5gkkhhkg0h2lh" ++
    "gB6gighjognhrh-gB9gsgBygjgB3ghilihjnhrh9gB6gigmglh0h8hB5hkjog0h9gCognihgC6gimroDigiopg" ++
    "hmCph7ghghgB3thkhhlqhBjpgDmjhlhhih5hkiwjtgihmgvgC-gTgidyi9h-h-hCghhmogiqjglgBtkBzgChhB" ++
    "igD2ikhpgmiG7higB6ghmhghginmpigBngo-BxjBwghkhglgBooshBgjihhiB4ghhjghiB6nihCglCyihshmkg" ++
    "mgjhByB-tgBiDkN9ghirititithskohqgigikBxkhphgtgwsBzBgCcrhDxiD9gvgDg_BvgO1gBkjjklgC9lC9i" ++
    "bY2gBHilIugDijhphg8jCwhuBhCug3iDnijhogjgkg5hlgE3h6xtgBmn5qBuiBwgijihxg1hCilihihsgogBjg" ++
    "rgBzghiihlhhg7guhlhhgDkkpiD5gigkgTZwgEzwR9vjgsvBigigFpgngmgrgBjghgBvgBthCjg1iQhgHigE1k" ++
    "BAllhBphoSmihhljBoikgFlhR9jBmg6khgJ7hCvjCmqBxjD7gB2uBpgihqiBxjihigkgqgByiBkkhnB-gshB0o" ++
    "qjigC_iighhmgigE9gjn1hB5hjgBlmjkCmltghghguhC1niihg3gC0lhgkhhhHujmhhh7hC1nighhDqghgilhg" ++
    "DlghgijhkIjohhIghhgkgEwjihkgBgpBolijogpliiBushhM2mhlhgCy1imhhhhD6ljghhhmhgCohjghgK7hrh" ++
    "B0klghg3gFG1wmuLGorjiCOgkB7mpjP8iBohPigB_wCghhhQArjhmhhDE-hhjES8Bti2Rgipvim-jE0iBd7B2k" ++
    "Bxogug2khuBKwmhwimhhhklB9BhgFgtLwgB9jP7kH-hXgmDtnCVvkYDAhg-C_EgHv"⟩,
  ⟨["cased"],
    "Ch5m5Bvgqgkgl2h-hGihjkGvhBjnh-kDggBqjihijhgmghihghzhCyhEqoFlhBlpBoCY3BlhglgiBqhjVgC1il" ++
    "CEiqlBqiiCgF_CgI1iliBlilinhghghgh-iB0hmhgjihmjjilkslihmD0gtgwsDlgkgiphgjkmghghghjhlkgi" ++
    "jlkkgx_jhZxBzBY2HkmjjhsBlhglgeIyBty9EkDljjhB9ihhghn1khiZ1BqhtmCvTagmskBAp5m5BFlCvDgBjk" ++
    "BjD0qhuhmhhhqhuhmhhOjgiihBphoBGlBytByC91q1CY6B_VLgB_ZMgC0hCmhhigihijhrhghmhCghjinhmh7h" ++
    "jhkhgjmhKzi4h4h-h4h-h4h-h4h-h4hnBZ0phzmlIlB9CEyCjBfs5m5m5"⟩,
  ⟨["cwcf", "changeswhencasefolded"],
    "Ch5C6gq2hnBgghghghghghghghghghghghghghghghghghghghghghghghghghghghgighghghghghghghghhh" ++
    "ghghghghghghghghghghghghghghghghghghghghghghhhghghghhhghhhiijhhhijhhhhghghhhgighhhihgh" ++
    "hjgnhhhhhhghghghghghghghgighghghghghghghghgihhghihghghghghghghghghghghghghghghghghghgh" ++
    "ghghghghghghghghghghgnhhhighjhghghghgH2gBqghgjgogmghihghhhwho2gsijhhghghghghghghghghgh" ++
    "ghghghhihhghhiByBwghghghghghghghghghghghghghghghghgpghghghghghghghghghghghghghghghghgh" ++
    "ghghghghghghghghghghhhghghghghghgighghghghghghghghghghghghghghghghghghghghghghghghghgh" ++
    "ghghghghghghghghghghghghghghghghghghghghghgiBlBwgCY4BlhglgZqlCEipmBqiiKgghghghghghghgh" ++
    "ghghghghghghghghghghghghghghghghghghghghghghghghghghghghghghghghghghghghghghghghghghgh" ++
    "ghghghghghghghghghghghghghghghghghghghghghghghghglhighghghghghghghghghghghghghghghghgh" ++
    "ghghghghghghghghghghghghghghghghghghghghghghghghghghghghghghghgpnolqnonolrghghghgonwBv" ++
    "iiilliilrjskliilJpgjhmgBtvzgZy5BZwBvBwghiighghghjhgigoihghghghghghghghghghghghghghghgh" ++
    "ghghghghghghghghghghghghghghghghghghghghghghghghghghghghghghghghghgoghgkgeKtghghghghgh" ++
    "ghghghghghghghghghghghghghghghghghgzghghghghghghghghghghghghghgEnghghghghghghgjghghghg" ++
    "hghghghghghghghghghghghghghghghghghghghghghghghghghghgqghghhhghghghgkghgighgjghghghghg" ++
    "hghghghghghkhkhghghghghghghghjhghhjglghghghg4gb6CvTagmskBAp5BGlBnEoBjE8qhuhmhhBXqByE91" ++
    "CZ6_VMg_eVgBh"⟩,
  ⟨["cwcm", "changeswhencasemapped"],
    "Ch5m5B6gq2h-hB_hCzh7itihhgkC8hxm6hhhghhjhhjhkighhigngighhjllgqhFmgBqjihjihgmghihghzhBu" ++
    "jBghkhEkoFlhBlqBmCY4BlhglgiBqiiVgC1ilCEiqlBqiiF5gjgwgDxE7ighD1iliBlilinhghghgh-iB0hmhg" ++
    "jihmjjilkslihmJpgjhmg7gx_jhZxBzBY2DwhhhhnDlnjjhsBlhglgeIyBty7EmtiB9pujiikh4h9ihkm4ha8g" ++
    "8CvTagmskBAp5m5BFlCvDgBjkBjD0qhuhmhhhqhuhmhhBWjBytByC91q1CY6B_VLgB_eUgCj"⟩,
  ⟨["cwl", "changeswhenlowercased"],
    "Ch5Dl2hmBhghghghghghghghghghghghghghghghghghghghghghghghghghghghgighghghghghghghgighgh" ++
    "ghghghghghghghghghghghghghghghghghghghghghhhghgjhhghhhiijhhhijhhhhghghhhgighhhihghhjgn" ++
    "hhhhhhghghghghghghghgighghghghghghghghgihhghihghghghghghghghghghghghghghghghghghghghgh" ++
    "ghghghghghghghghgnhhhighjhghghghgJhghgjgogmghihghhhwhoBjgoghghghghghghghghghghghglgigh" ++
    "hiByBwghghghghghghghghghghghghghghghghgpghghghghghghghghghghghghghghghghghghghghghghgh" ++
    "ghghghghhhghghghghghgighghghghghghghghghghghghghghghghghghghghghghghghghghghghghghghgh" ++
    "ghghghghghghghghghghghghghghghgiBlCapBlhglgWyC1CEzgmBqiiKgghghghghghghghghghghghghghgh" ++
    "ghghghghghghghghghghghghghghghghghghghghghghghghghghghghghghghghghghghghghghghghghghgh" ++
    "ghghghghghghghghghghghghghghghghghgpghghghghghghghghghghghghghghghghghghghghghghghghgh" ++
    "ghghghghghghghghghghghghghghghghghghghghghghghgpnolqnonolrghghghgon4nononokrkrjskrkJpg" ++
    "jhmgBtvzgZy5BZwBvBwghiighghghjhgigoihghghghghghghghghghghghghghghghghghghghghghghghghg" ++
    "hghghghghghghghghghghghghghghghghghghghghghghghgoghgkgeKtghghghghghghghghghghghghghghg" ++
    "hghghghghghghghgzghghghghghghghghghghghghghgEnghghghghghghgjghghghghghghghghghghghghgh" ++
    "ghghghghghghghghghghghghghghghghghgqghghhhghghghgkghgighgjghghghghghghghghghghkhkhghgh" ++
    "ghghghghghjhghhjglghghghg4gVZr5BGlBnEoBjE8qhuhmhhBXqByE91CZ6_VMg_eVgBh"⟩,
  ⟨["cwt", "changeswhentitlecased"],
    "Dh5B6gBp3hnhghghghghghghghghghghghghghghghghghghghghghghghghghghghgighghghghghghghhhgh" ++
    "ghghghghghghghghghghghghghghghghghghghghghgighghiighgigjglgigjiigighghgigkgigjghgigjgh" ++
    "gkghhhhhghghghghghghghghhhghghghghghghghghihghgjghghghghghghghghghghghghghghghghghghgh" ++
    "gjghghghghghghghghgogihhgkghghghghlhhhghhjhhjhkighhigngighhjllgqhFmgBrghgjgjiyg7Bihhji" ++
    "hghghghghghghghghghghghkhgigigB0Bvhghghghghghghghghghghghghghghghghgpghghghghghghghghg" ++
    "hghghghghghghghghghghghghghghghghghgighghghghghghhhghghghghghghghghghghghghghghghghghg" ++
    "hghghghghghghghghghghghghghghghghghghghghghghghghghghghghghgBxBmDTwlCEiohgHugjgwgDyghg" ++
    "hghghghghghghghghghghghghghghghghghghghghghghghghghghghghghghghghghghghghghghghghghghg" ++
    "hghghghghghghghghghghghghghghghghghghghghghghghghghghghghghmlghghghghghghghghghghghghg" ++
    "hghghghghghghghghghghghghghghghghghghghghghghghghghghghghghghghghghghoolqnonolqnonotin" ++
    "ononokhhmgjihhojihonqihhK2gBhvkgar5BamBvhgjhhghghgmgigqghghghghghghghghghghghghghghghg" ++
    "hghghghghghghghghghghghghghghghghghghghghghghghghghghghghghghghghghgoghgkgsBlhglgeIzgh" ++
    "ghghghghghghghghghghghghghghghghghghghghghgzghghghghghghghghghghghghghgEnghghghghghghg" ++
    "jghghghghghghghghghghghghghghghghghghghghghghghghghghghghghghgqghgighghghghgkgkghhighg" ++
    "hghghghghghghghgrghghghghghghghgkghgigjglghghg6ga8g8CvTagmskBBp5BGtBnEoBjE7qhuhmhhBYjB" ++
    "yD91CZ6_VMg_eViBh"⟩,
  ⟨["cwu", "changeswhenuppercased"],
    "Dh5B6gBp3hnhghghghghghghghghghghghghghghghghghghghghghghghghghghghgighghghghghghghhhgh" ++
    "ghghghghghghghghghghghghghghghghghghghghghgighghiighgigjglgigjiigighghgigkgigjghgigjgh" ++
    "glhhhhhhghghghghghghghhhghghghghghghghghhhhhgjghghghghghghghghghghghghghghghghghghghgj" ++
    "ghghghghghghghghgogihhgkghghghghlhhhghhjhhjhkighhigngighhjllgqhFmgBrghgjgjiyg7Bihhjihg" ++
    "hghghghghghghghghghghkhgigigB0Bvhghghghghghghghghghghghghghghghghgpghghghghghghghghghg" ++
    "hghghghghghghghghghghghghghghghghgighghghghghghhhghghghghghghghghghghghghghghghghghghg" ++
    "hghghghghghghghghghghghghghghghghghghghghghghghghghghghghgBxBmCaoBqiiX4lCEiohgHugjgwgD" ++
    "yghghghghghghghghghghghghghghghghghghghghghghghghghghghghghghghghghghghghghghghghghghg" ++
    "hghghghghghghghghghghghghghghghghghghghghghghghghghghghghghghghmlghghghghghghghghghghg" ++
    "hghghghghghghghghghghghghghghghghghghghghghghghghghghghghghghghghghghghghoolqnonolqnon" ++
    "otiB0hhkghgjihhkgjjihonqihhkgKxgBhvkgar5BamBvhgjhhghghgmgigqghghghghghghghghghghghghgh" ++
    "ghghghghghghghghghghghghghghghghghghghghghghghghghghghghghghghghghghghghgoghgkgsBlhglg" ++
    "eIzghghghghghghghghghghghghghghghghghghghghghghgzghghghghghghghghghghghghghgEnghghghgh" ++
    "ghghgjghghghghghghghghghghghghghghghghghghghghghghghghghghghghghghgqghgighghghghgkgkgh" ++
    "highghghghghghghghghgrghghghghghghghgkghgigjglghghg6ga8g8CvTagmskBBp5BGtBnEoBjE7qhuhmh" ++
    "hBYjByD91CZ6_VMg_eViBh"⟩,
  ⟨["dash"],
    "BtgBK8gBzgDShgBAlgCAplB9gBngvgMmgDAkgig_hkg8gN-gzgDvgBTMwhBlgqgFpgDTggJ-g"⟩,
  ⟨["di", "defaultignorablecodepoint"],
    "FtgVhgWsgCaihBSzhC1kBf7k6kBxvEH0gBTE7vHvgFggCvoBPFnjFGvnYLUlDf_"⟩,
  ⟨["dep", "deprecated"],
    "KpgBJpgCIjghgCBphCGllV5hbXG2g"⟩,
  ⟨["dia", "diacritic"],
    "C-ghgCngmgkgihP3E-hnllxhkgphH9kGxgB3BshghhhhhgEjnkhEmhkhjiCj6C7qB6qBihD-nBppw7B9gwgjj8" ++
    "gCqgwgDugwgDugwgBviB8gwgngD3gDugwgDugwgDthwgD8gDvgslhgDrgtkCrh7ghghgkhCiihhB-gDwghhBoh" ++
    "kk5mhgqhWhid0h-gE0qpgK7iJkg0nigBwuiqDogvgBmoB2hB6grhCihCglCy4kgmgiiByB-BwBjlrBlqN9ghir" ++
    "ititithDHwiJ9gP6lDpjC_gdLygshhg8hCyhuBhDmiDthsgBlgE3g7xB5jBkgC_gsgBkgE1iChjBzgDkkpiEgh" ++
    "TZwgYhvIughgBvgBthCjgX8gBE_lhBphoT9ikgFlhR7lBmg6kMviCmqBxjGggBpgCohD4hB-gCsgpiDohFyhCw" ++
    "hwg4mjkC5ihhthC_gjgD7hH7hD-gD2hDzgIthIihkgE8gCzgygCxgNlgIighhCxgNph3gFHsuLG5gCOgkB7mR0" ++
    "hRiwCwhPf-jhmhhHYhBti2Rgijlonim-jDUiB9GimL3gB9jX-hXgmDtihi"⟩,
  ⟨["emoji"],
    "BjgmglpDvgkgHctgsgG4g2gC6lvhLvhsgFmg5qkiGngHnhqgpgB6jhkpgigihigkgighhigjgjhoilghglrrhi" ++
    "ghhhgygihylhghhjhlgihkhrhlhiglhhghh0hllhjigkgigilhgighghgmgjgmgqhvgigkghgkihgrhBwipgug" ++
    "ugL0hOvizhBzgkgBG6gsgS5ghgDPLqgGqgFghshugipCr5hh3g0gio1hFuBhiDvihhiiCyiihImhB-rlh3nhin" ++
    "sgijigkhthigohpglisioiighgkgmgjgmC1BwCllniikpjghhjgipHjrkgI7BuhphF4DwsjplB3nuiqmo"⟩,
  ⟨["ecomp", "emojicomponent"],
    "BjgmglpHezgG1gBXJrgBce25P7kBNwjYBTsC_"⟩,
  ⟨["emod", "emojimodifier"],
    "Dcf7k"⟩,
  ⟨["ebase", "emojimodifierbase"],
    "JQ9gG7gwjDTD3gB8iigiiD1hiq1yjgkihinghg4gGphkg1gkhFuijkCzgwipgrgR_gigonmgppiiB4gB9hhhhg" ++
    "xihsHliBqo"⟩,
  ⟨["epres", "emojipresentation"],
    "IY6hGtjjgigQph1hByrBrgzgtgohxhlhoglg1gnhhgkgigngkh8gBjghgkihgB9i4guga7hBzgkgDRFugGqgF-" ++
    "gipCr5hg4g0gikhi1hFuBgsohClh1sBqkkswjgjCmhghF6iB-tjh3yg6htgC2C0BwClmgjiiikjrhnoHjrkgI7" ++
    "BuhphF4DwsjplB3nuiqmo"⟩,
  ⟨["extpict", "extendedpictographic"],
    "FpgkgHctgsgG4g2gC6lvhLvhsgC_gCmg5qkiGngHnhqgpgB6jhlhrhDxqD1iqhghgmgjgmgqhvgigkghgkihgr" ++
    "kBtipgugugL0hOvizhBzgkgBG6gsgS5ghgDPLmH_ti_gB8lshugipyB47uqg0giohjpNxlJ9oIpBwD_D0rC1Bq" ++
    "sjB4nqlBon-CxsBuhphN4Igf9"⟩,
  ⟨["ext", "extender"],
    "F3gQ4hbugN5gT2gEpgC5gXwgD_gCKjgB4gTjgMugCkgEcpgBrkDnhC9ibY2gBP2geig2gEpgDsg1hVD7gCAwhB" ++
    "Org7gkgBGngJlgD0hPyiBGvgUFphBE8hhgcK4hBFxga0i"⟩,
  ⟨["grbase", "graphemebase"],
    "BgC-BhshSxDwnilkmhghzhG_nFlhBliBxiiBughgigigp6klxprghBt1vhDkogmhigk_igh99C4rguBqpmj3kg" ++
    "pgjgnuh4lghql-xBpB5B2hghjojhinpi8hhhnihi1hmhgjjjghhmhihhgthhik3lghlkhi1hmhhhhhhki4jhgn" ++
    "piihgsghohih1hmhhhkjjoghhjgvhkrngohhnihi1hmhhhkjgigmhihvhhikxrghljihjjhhghhjhjijrlghhj" ++
    "ihijg10mihnhih2hvjgjjziigihkpnphqhih2hphkjhighh4hhhkphiuqhihBoighhlihihhkihpk5ihhxj3ho" ++
    "hgimphmmnpiisBvhhrnosBlhhghkh3hghphhpgikhgppijBg3i6hghghthBjyglgikBxnhlhsBlBskgmgihi4i" ++
    "jjvkshhilhuhBnhglgiL4hjimhghjiBohjiBghjimhghjiuhB4hjiCil8j5mC1iliU8jC4nxtyjhpxushivBzi" ++
    "gnnhhrojpmpmqlpmC4nkiBhhglClq-kjiikhhlngjBpikrBrk5mqjB4ihjB3hgpghholtpmpmtC2Bvqjjnh8pr" ++
    "i_khmB3hgiihgtBvohlujB9lBqiqrgtgnjhlhiiglF_CgI1iliBlilinhghghgh-iB0huhtilhyiihohql3nBw" ++
    "whi6hsjBgB_ErkU52q1BYzi_hK3jhlBshglgiB3nhv2pmhmhmhmhmhmhmhmBhC9Bi5hC4sG16B5mvhC1kDklBq" ++
    "hC9hC1pBvhcTsjB2pK70Bukgq_iCviloGtihhghn1vhihjh4ikkpmB3oCjqr4shBlo4rgs9mBvhhkhihhshqkm" ++
    "h4hBomhihrihnhgipi_hByhgjhikighg4winrlililpmhmhB7kD0hhhjjpmKdjs2kBwIIkLtiDpBmmsklgh3hk" ++
    "hghhhhhD8wN8iB1ngBgvwp2BihyhjkkhEmkE8i-jlililiijmhmthirh5hyhhhuitBiD6likBsjC3hsjgBvBsE" ++
    "j8jBww6kBjp9lBlq9hBkktBqE9ipmBjkBjkBnoBzrrhuhmhhhqhuhmhhjBzsJ2p1qn4lhBphoCllighBrhhjgi" ++
    "2hCnooBwyhhlBgj6lgCgB3kziBuvjhih8qononB_BgBkmrpB1j8i6l5njsmCwCoB3BytBynBpspmBlo3ohGw-h" ++
    "BpjgihwiB7Bno1ro2xkjBm702pghB1vmk9hhigsBwkhihhju4nppBjlgpxoBihirBzpghnkhhvhzrxh7jhklhh" ++
    "B_mhghjhuhqmBuhitpohhnihi1hmhhhkjghghjihihjgsm8phgighBlhghhvghhjghihhBnB3ohjgh0hghi-Bv" ++
    "hhmghhhgigijopFmBuhhmjigi6BkByohhgijrpmszBqhghhohmpmz86jghhkgp2F5BupgigDkCysniginhhh3h" ++
    "khhmjhippCmniBpojhj7gqBnmhknpgmhjBttgiotConpF2BhupmohBlughlq8j_5gngigCrmhhhBl1gppmlhhh" ++
    "BkkhhghgnpJ2yijpuhBjohj2C2gvBxtc6DmDuhkrGjCSsDitBBvxl5Dc6lSmGV59sijpBWmR4n-hpkCwhpm9ng" ++
    "qBvnuqphmh0lyNwB5GmC6DlCqlB3rsCgj8Ff3oBG1BppIXnjhmhhhJivg9iigujoMrCIkDqlsjonpigigDbgH5" ++
    "mNzE8DzB8H1qBmiB7li2hn9kB81ChjgD6zszsC2p4EnC0hCmhhigihijhrhghmhCghjinhmh7hjhkhgjmhKziJ" ++
    "jiRxB3jBynhthmBD0-mlIlB9EyBsqmipkhKg9yBrkplgOw7kpG29iqkgPgmhjhhhuhGkioBwCjngkpkhYxCjCs" ++
    "B8Gijh6hhhgighphjhghgmgkghghghihhhgighghghghghhhgijhmhjhjhghphwlihkhwB0hIuBrkDjsuiuhuh" ++
    "BkqFtB48tBrkonhulE6e3kwjsjD2kC-mrkgvrkB3opmBno9irkhB-KzstisjplB3nuiqmonEyhDlBAmBJW_BgE" ++
    "B5mG9iFUhuHJwvTtCNiQ9BPiEaqlEC_"⟩,
  ⟨["grext", "graphemeextend"],
    "YgDvIzmInBshghhhhhgCoqBw0wgDlmilihhjBjg-6C7qB6opg4jhohihkBriB7oBq3h_B3ghgknkgjmqh9gB6g" ++
    "hgijogpgqh6gihB5gkhkhiijg-hjgrhB5gkkhhkg0h2lhgB6ghhhjogniqh-gB7ghgsgpgBogjgB3ghilihjnh" ++
    "rh9gB6gihhgjihjnhrh8hB5hhgijogpgqh9gCogkgiihgogCxgimsnDigiormCph7ghghgB3thkhhlqhBjpgDm" ++
    "jhlhhih5hkiwjtgihmgvgV_idyj8i9h-hCghhmogiqpgBtihgD1hBigD2ikhpgmiG7higB6ghmhghginmpigBw" ++
    "-BxjBwpkiBmoshBgjilB4ghhjghkB4nihE4ihshmkgmgjhGmB_QsgGjBgCf-iEtgDg_RqlDphdO0jhpBghCwhI" ++
    "wgjgkg5hlgE3h6xtgBmn5qhgBsiBwgijihigBkgCjlihihsgogBvgBzghiihlhhgBqhogHugigkgTZwgXhvwvL" ++
    "uhS9gHigE1kBUmihhljBoikgFlhR9jChkJ9hCvjCmqBxjD7gB2uBpgihqiBxjihngB9iBkkhnB-gshB0ohgoji" ++
    "gC_iijmgigE9gjn1hB5hhghgsgpgumjkCjgilhgighikihguhC1niihg3gCxgilhgighhhhHrgijmhhh7hC1ni" ++
    "ghhDqghginDlghgijhkIjohhH1gqjkgEwjihkgBgpBolijogpliiBushhM2mhlhgCy1imhhhhD6ljghhhmhgCo" ++
    "hjghgK7hrhB0kli3gFHlgmuLGorjiCOgkB7mBA4gB_jCxgrhTFrhEThBti2Q-kjlonim-jE0iBd7B2kBxogug2" ++
    "khuBKwmhwimhhhkDkgFgmL3gB9jP8jH-hXgmDtmYFW1C_EgHv"⟩,
  ⟨["grlink", "graphemelink"],
    "CKtgD_gD_gD_gD_gD_gD_gD_gDthwgD8gDvgD_gGpgF0hBW5h-gE9gUtgHjgDlhCmhEMrgeUmgBlgE3gEugDsg" ++
    "J1gH2gXSxgBQmgBpgugB5gD5hErgD0gF0gDigEgiDxgD_gH8gD_gD2gD0gItgIjhFhgCzgygCxgNlgIkhCxgNp" ++
    "hQPsg"⟩,
  ⟨["hex", "hexdigit"],
    "Bwpnl6lBfVppnl6l"⟩,
  ⟨["hyphen"],
    "BtgD_gBG8gET7gCAphDQlgXjgBTLngFpgC3g"⟩,
  ⟨["idsb", "idsbinaryoperator"],
    "LfwhipPxg"⟩,
  ⟨["idst", "idstrinaryoperator"],
    "Lfyh"⟩,
  ⟨["idsu", "idsunaryoperator"],
    "Lf-h"⟩,
  ⟨["idcompatmathcontinue"],
    "FyhlgHd2gjqhuLzgkg2gDNFig5g_g5g_g5g_g5g_g5g"⟩,
  ⟨["idcompatmathstart"],
    "IQigkg2gDNFig5g_g5g_g5g_g5g_g5g"⟩,
  ⟨["idc", "idcontinue"],
    "Bwpn5kgh5Bvgqghgigl2h-hOpkruknghgxD0hhijhgmkhghzhCyhEqhkiFlhBligmBooBshghhhhhgo6kj9qlC" ++
    "pkDlhniphyigwB6iDkuB1kgigiBty7kql3hloCqhEgiphyhnihi1hmhgjjioihijogkhhkirqghgiihlkhi1hm" ++
    "hhhhhhighkkhiijgnjhgnvrihohih1hmhhhkiphihiigvjippmhihnihi1hmhhhkioihiinikhhkiphgwhhlji" ++
    "hjjhhghhjhjijrkkjihjigmgupwshih2hviohihjnhhiigijipwjhnhih2hphkiohihjnhmhhjiphisshihByh" ++
    "ihkljnkipqlhihxj3hohgimjgklhghnmpihtB5luhpBnhhghkh3hgh2ikhghmhpijBgg3hmprghghgkphBjkzh" ++
    "xhBjpgB5CpmCtiBlhglgiBqhKshjimhghjiBohjiBghjimhghjiuhB4hjiCiiipouvwC1iljTriwh5lCqjqn1p" ++
    "1rzsshihhsCzjgkhipBhihqmC4nBqlClq-hrkrqBnikrBrk5mqBl7kB-h8iqmptgothvBxCsjpxosDzsB3opjB" ++
    "wiqlBqiiwihBmlQ1iliBlilinhghghgh-iB0hmhgjihmjjilkslihmvhBxhzg8gtgwsBzskgjrxgkgiphgilmg" ++
    "hghghvijlkkgxBoCT3HkmosBlhglgiB3ngv3pmhmhmhmhmhmhmhmh_Qli5uhkikkC1imhC-lBqhC9x_BwvQgGN" ++
    "_CgVUsCjBtiIsj70BvkphDyBloiDmiCiihhghn1B1kgzBzsClqpm3jghBwiBjs8jCguqm-hB2ptipm2jCo4iiv" ++
    "ikqlililpmhmhBqhtmD6hhipmKdjs2kBwIIkLtiDpBmmsklrhshkhghhhhhDrBhLqyB_iB1Borkvwvjh4iBgkh" ++
    "Emzpn5kgh5qC5jlililiiBjrh5hyhhhuitBiD6ClB0EogEi8jBwvg__t9lBql9iBjknhkBqE9ipmBjkBjkBnoB" ++
    "zsqhuhmhhhqhuhmhhjBzsJ2p1qn4lhBphoCllighBrhhjgi2q2p-Chyhhq1q5CmB3mhCgjhhlnhih8iikgBg8j" ++
    "8Bjnh95B1q1qytxDuCoB3BytBytBnopmBljkh2H6BphhjhwiB3BgqgoBg_1Bq072pCm_vpB7ngt4npmB0hpkjo" ++
    "BjigpCkkjhshgBjxhBkmjB-mhghjhuhpnB6lpmjhnihi1hmhhhkhpihiiigmglmimjkrphgighBlhphgighjhn" ++
    "th9Cqlpkj-ClhgopFmB1io3lBiCgjgrpBmB4npmz86iukpmmF5B6DlCp1niginhhh9hhiospCmniBtinhh7B-o" ++
    "goCpjgyCoGnBgvpmohBshovp49i1htCpmhhhBrjghhhoopmlhhhBkhhhlnpJ22pwhBojktqC1gCvc5DmDuxGjC" ++
    "SsDgvBBvw1qDc6lSmGV5B5BWmR4n-hpmCuhpm9ikrB2pjspp0lyNwBsjpGmB_EgCqkB4nwCghhhrhuFf3oBG1B" ++
    "ppIXnjhmhhhJivg9iigujoMrCIkDqlsjonpjhECxpQmBti2Q-kjlonim-jE0iN7C0hCmhhigihijhrhghmhCgh" ++
    "jinhmh7hjhkhgjmhKzi4h4h-h4h-h4h-h4h-h4hniBxQgB2kBxogug2khuBCw-mlG1mhwimhhhklB9BhgDwBsj" ++
    "tipkgKh-xB5O2BpG2BqPlmhjhhhuhGkrmBpCrkpBFmjh6hhhgighphjhghgmgkghghghihhhgighghghghghhh" ++
    "gijhmhjhjhghphwlihkhwDJ0pBAmBJW_BgEB5mG9iFUhuHJwvTtCNiQ9BPiEaqlEC_VXKwHv"⟩,
  ⟨["ids", "idstart"],
    "Ch5m5Bvgqgkgl2h-hOpkruknghgEhkhhijhgmghihghzhCyhEqoFlhBligmBoCn6kjBtBqBjhhDihgvhnhqiig" ++
    "wgh99C4rg4Bgphkgl1kgpgjg34nql3hlxBpB6B1jgygnpvvknihi1hmhgjjjgwgthhiuhqgolkhi1hmhhhhhh_" ++
    "jhgziwohih1hmhhhkjgygvh3grnihi1hmhhhkjg-hhivgxghljihjjhhghhjhjijr2gB0nhih2hvjg6iigih-g" ++
    "knhih2hphkjg_hhhvhxohihBoigwglioi4llxj3hohgimB6BvhhsmB6hhghkh3hghphhpgikhg1jBggB_nhBj7" ++
    "kDzBq0gwlkjjgjhnikssgxBlhglgiBqhKshjimhghjiBohjiBghjimhghjiuhB4hjiCiBlvwC1iljTriwh5lCq" ++
    "jqnxtyuxushivBzBjgkgCjC4nBohglClq-Bx9ikrBrk5B22pB0CygC9BuxnB29thqBr6BjBpiqBjiqlBqiiBpj" ++
    "hlhhjglF_CgI1iliBlilinhghghgh-iB0hmhgjihmjjilkslihmD0gtgwsDlgkgiphgilmghghghvijlkkgxBo" ++
    "CT3HkmjjhsBlhglgiB3ngw2pmhmhmhmhmhmhmhmRmi5onkikkC1kkhC5hjlBqhC9x_BwvQgGN_CgVUsCjBtiIs" ++
    "jvqh0Buw-iCvBnoiDmiCiihhghn1vhihjh29BzuBxB-ljghhr7q258nBu8gwkhpqkhBo3ihn02jgjBxhgjhiki" ++
    "ghg4iiqnislililpmhmhBqhtmDy9Kdjs2kBwIIkLtiDpBmmsklghphshkhghhhhhDrBhLqyB_iB1BorD0khEmB" ++
    "k5m5rC4jlililiiBjrh5hyhhhuitBiD6ClB0Ir8jBwBv_t9lBlq9iBjknhkBqE9yBjkBjkBnoBzsqhuhmhhhqh" ++
    "uhmhhjBzsJ2p1qn4lhBphoCllighBrhhjgi2q2p-Chyhhq1q5CmB3mhCggvjhih8Bq8j8Bjnh77B1q1qytxDuC" ++
    "oB3BytBytBjBm7p2H6BpmhwiB78qgo1BqxBu072sB0B5higtBsBg46Bj9gigoBijgsBvuj1ghgBjxh4zhB_mhg" ++
    "hjhuhpnBuBmnihi1hmhhhkjgygsk-phgighBlhg5ghgBsB0yj0i-Bv0hhgF4BuBpjBkBv0gB7BqtgCn6BlmF5B" ++
    "rD0B__niginhhh3vghgC-niBmwghg8gqBnng1grBtzgyCoGnBg_ohBkxgBx9DwmhhhBl1g5lhhh_ugKnyvghsh" ++
    "BhD8gCvc5DmDuxGjCSsDgvBBvxl5Dc6lSmGV59BXiR4n-xCux9yBvwj_0lyNwBsGzB_EgCqlgCisCghhg8Ff3o" ++
    "BG1BppIXnjhmhhhJivg9iigujoMrCIkDqlsjonpFbmC0hCmhhigihijhrhghmhCghjinhmh7hjhkhgjmhKzi4h" ++
    "4h-h4h-h4h-h4h-h4hnBZ0-mlIlB9EyBsqmwgKh9yBrPk7Hk9igPvmhjhhhuhGkB7CjngBF0jh6hhhgighphjh" ++
    "ghgmgkghghghihhhgighghghghghhhgijhmhjhjhghphwlihkhwEKkBJW_BgEB5mG9iFUhuHJwvTtCNiQ9BPiE" ++
    "aqlEC_"⟩,
  ⟨["ideo", "ideographic"],
    "MAmh5ouielGN_CgUP_WIgLtiDpdIqg7Ff3oBG1BppJDnMrTIkBJW_BgEB5mG9iFUhuHJwvTtCNiQ9BPiEaqlEC" ++
    "_"⟩,
  ⟨["joinc", "joincontrol"],
    "IAsh"⟩,
  ⟨["loe", "logicalorderexception"],
    "DSgkD7kCXwiigBEH6highh"⟩,
  ⟨["lower", "lowercase"],
    "Dh5BvgqgkgBk3hnhghghghghghghghghghghghghghghghghghghghghghghghghghghghhhghghghghghghgh" ++
    "hhghghghghghghghghghghghghghghghghghghghghghghgighghiighgigjhkgigjiigighghgighhhgigjgh" ++
    "gihiimgigighghghghghghghghhhghghghghghghghghhighgjghghghghghghghghghghghghghghghghghgh" ++
    "ghghghghghghghghghghghmigihhgkghghghghCkhBjnh-kDggBrghgjgijyg7Bihhjihghghghghghghghghg" ++
    "hghghkhgigihBzBvhghghghghghghghghghghghghghghghghgpghghghghghghghghghghghghghghghghghg" ++
    "hghghghghghghghghgighghghghghghhhghghghghghghghghghghghghghghghghghghghghghghghghghghg" ++
    "hghghghghghghghghghghghghghghghghghghghghgBwBoCanBqhjX4lCEiohgD1F_Chghghghghghghghghgh" ++
    "ghghghghghghghghghghghghghghghghghghghghghghghghghghghghghghghghghghghghghghghghghghgh" ++
    "ghghghghghghghghghghghghghghghghghghghghghghohghghghghghghghghghghghghghghghghghghghgh" ++
    "ghghghghghghghghghghghghghghghghghghghghghghghghghghghghoolqnonolqnonotinononokhhmgjih" ++
    "hojihonqihhD5gtgwsDtgjhjg7gkgkgihojkgBhvkgar5BamBvhgjhhghghgkghhhnjghghghghghghghghghg" ++
    "hghghghghghghghghghghghghghghghghghghghghghghghghghghghghghghghghghghghghghghghhnghgkg" ++
    "sBlhglgeIzghghghghghghghghghghghghghghghghghghghghghghgzghghghghghghghghghghghghghiElg" ++
    "hghghghghghihghghghghghghghghghghghghghghghghghghghghghghghghghghghghghghphghgighghghg" ++
    "hgkghgighihghghghghghghghghghglglghghghghghghghgkghgigjghghghghghg2ihghiZ1BqhtmCvTagms" ++
    "kBBp5BGtBnEoBjE7qhuhmhhOjgiihBphoBIlByD91CZ6_VMg_ZM656mhx656jhghmhq6565656565656565678" ++
    "4hl64hl64hl64hl64hlhgBZ0phzmlIlB9CF0Bh"⟩,
  ⟨["math"],
    "Brgwi_g9ghgBtgkgBlg_gW4iig6hiiQviGQtg7irgjgtguj1krkChskgjhkkygkgiphgilmgjhihhihljthgCk" ++
    "3hlhhkhk_hgmhuIroj0hC6g-6hg4grmN9hspklkhihjkughgilrnlhB5ghg9jpiKwB_IgP_Bw0ilBTe8gZ3lhg" ++
    "Figwi9ghg9ghgEjgmjDNhhBRTwC0hCmhhigihijhrhghmhCghjinhmh7hjhkhgjmhKziJjiBxFQgjh6hhhgigh" ++
    "phjhghgmgkghghghihhhgighghghghghhhgijhmhjhjhghphwlihkhwB0h"⟩,
  ⟨["mcm", "modifiercombiningmark"],
    "BS0higEjgmgjhPhhhijg_g"⟩,
  ⟨["nchar", "noncharactercodepoint"],
    "BfOw_QuhBff-hBff-hBff-hBff-hBff-hBff-hBff-hBff-hBff-hBff-hBff-hBff-hBff-hBff-hBff-hBff" ++
    "-h"⟩,
  ⟨["oalpha", "otheralphabetic"],
    "bjsSgthghhhhhgCoqBwshmwgDlmkjihkgBjg-vDmqDlhjohihjDqgB8rjmmzB2hiuhhliqh9iB6mihihqgqh9i" ++
    "B6kkhihkg-hjgriB6nhihh1h2ikiB6mihihphqh-gB7kjihiqgBokB5mhihiohrh9iB6mhihiohrhvgsjB6mhi" ++
    "hiqgqh9iCrlhghnyhB9gimygDjgilhhwgFjypqhBjDurhgij3jkihiimjjtrhgqjBT0h-h-h-hCiyF8hBigD2r" ++
    "koG-kB5pizCqhriBxkBwuB8i-oihB5qByyM8BhBWhBzCH2_eD0nBihLigog3kC4hByvhgB5gBmk8rBtjBwrBlg" ++
    "CjtsgohBtiByghiihlgBsklgHtnTZzgCC3kBUmihhljY0jChgKhhCvgIjiB1tBthriBtopgB9iBkryhB5iBwsu" ++
    "hC8oigmgigE9p3jB6mihihqgqhC0ohgighjhhDnshiDqxHtmim9hCyuhgDqqDntIhsH3lhhihjghgEumilkg8p" ++
    "BqkhjyqButM3nhmCz1htD6ljghhhihgjgCikhhhjK8jphhgBwmjiQO9wDRgghB2njC9hTFsgIbhmhwimhhhkDk" ++
    "gCF3gBfo5m5m5"⟩,
  ⟨["odi", "otherdefaultignorablecodepoint"],
    "avgDQvhBSzhCFvgEH-gBTR7gCvoaAAngh9DgD_HwDQv"⟩,
  ⟨["ogrext", "othergraphemeextend"],
    "CN-g4gLmg4gDmg4gHoghgkhhhphDng4gD3gvgCJ1g-gBAgglghglhDlgCnhBA4gEBhheJjgDsgVO9hERggD0gI" ++
    "ogugpgDggpgighilgHggsgHxgImgT5gsgBQjgUFuhYLzhmlYLVtC_"⟩,
  ⟨["oidc", "otheridcontinue"],
    "F3gWvgDfhoBTogBRxhEHtgBTTpg"⟩,
  ⟨["oids", "otheridstart"],
    "GElhCExg1gDbsh"⟩,
  ⟨["olower", "otherlowercase"],
    "FqgvgP1onh-kDggB0gDMhgDBvB-tgBiBkVxgtgwsGzvaw5BcyheQ-hGygEhijhbijpgXA2giihBphoBWD1B9"⟩,
  ⟨["omath", "othermath"],
    "C-gbxiig6hihHBgg7irgBgj4huhChskgjhkkygkgiphgjkmgjhihhihljjlkCrkijhhhhhghkihkhkxihhghmh" ++
    "gmhJijFohhg4gxgN9hsolklhihjkughgil4hB5ghg9jphK2h_pMz1B_jBghBVDjghgkgGzghgBVGhC0hCmhhig" ++
    "ihijhrhghmhCghjinhmh7hjhkhgjmhKzi4h4h-h4h-h4h-h4h-h4hniBxFQgjh6hhhgighphjhghgmgkghghgh" ++
    "ihhhgighghghghghhhgijhmhjhjhghphwlihkhw"⟩,
  ⟨["oupper", "otheruppercase"],
    "ILgvam5DTDg5m5m5"⟩,
  ⟨["patsyn", "patternsyntax"],
    "Bhuqm6jhg6jBimhghhhghhkgkgjg3g_gHY43ouiyhpJxWvFgT1-BDrQgD_Mhik4vgBTIthIlh"⟩,
  ⟨["patws", "patternwhitespace"],
    "pkygDkgHcoh4h"⟩,
  ⟨["pcm", "prependedconcatenationmark"],
    "BQglG3gBxgMghCwgCBe6gvg"⟩,
  ⟨["qmark", "quotationmark"],
    "BigkgEjgvgHa8n5hDQngOpjtiBTRhjF9gkgC6h"⟩,
  ⟨["radical"],
    "LUg5hC4sG1"⟩,
  ⟨["ri", "regionalindicator"],
    "DcPm5"⟩,
  ⟨["sterm", "sentenceterminal"],
    "BhgsgwgBKpgEziF0gBriH2gB9ghgjhJlhBXkhY2gkhYlgGmhE9hBtglgJ6hLijFihqhih9iF7hChhdkg3hpiDF" ++
    "viJygtg2hNtgdH8gIuhHjgjgL-hC2hC_gE4hEziEwhH5gURmgihB7gjhFpgsgwgChgCX0hBH9kBsjF9hD1jD_i" ++
    "EhhmgwhC4hhhDsgJqhD1hL1hluDphH5iQlghgH7hC3hNkhV0hCqhSZphElgChhrgRphJogTQmgHPog"⟩,
  ⟨["sd", "softdotted"],
    "DphGkgI5g-gB0g0gKggDighgGIpgBzgtgjgEkgE9gNlgG2hCZygDJdlhByhByhByhByhByhByhByhByhByhByh" ++
    "ByhByhCEmgJxh6g"⟩,
  ⟨["term", "terminalpunctuation"],
    "BhgqghgrhjgZ-gogQhgB5gCogughiF0gBrqhgHrhB2lhn_gIlhBH0hFsgklJ3hY1nYlgD8iCnhE9ijgBnjihJ6" ++
    "hLijFihqhhi9iF7kB-hdkg3hpiDFviJygtgkgqghhjhNshdH7hItiHjkL-hC2hC_gE3iEziD_gwhH5gURmgihB" ++
    "5ihjFpgqghgrhjgChgigBB6gBwgBEmgGngJ2hE4lCklC5jd4kBsjF9mDwjD_iEhhmgwhC4kDsgJqhD1ishLmjj" ++
    "uDphH5iQlghgH7hC3hkhM-iBtgUlhCqhBJrkRP5hElgChiqgRphJnhTQmgHPnj"⟩,
  ⟨["uideo", "unifiedideograph"],
    "NAgGN_CgUP_WQuhhghhqghghhiiCBO2BJW_BgEB5mG9iFUhuHJwvTtENiEaqlEC_"⟩,
  ⟨["upper", "uppercase"],
    "Ch5Dl2hmBhghghghghghghghghghghghghghghghghghghghghghghghghghghghgighghghghghghghgighgh" ++
    "ghghghghghghghghghghghghghghghghghghghghghhhghgjhhghhhiijhhhijhhhhghghhhgighhhihghhjgn" ++
    "gigigighghghghghghghgighghghghghghghghgigighihghghghghghghghghghghghghghghghghghghghgh" ++
    "ghghghghghghghghgnhhhighjhghghghgJhghgjgogmghihghhhwhoBjgiijghghghghghghghghghghghglgi" ++
    "ghhiByBwghghghghghghghghghghghghghghghghgpghghghghghghghghghghghghghghghghghghghghghgh" ++
    "ghghghghghhhghghghghghgighghghghghghghghghghghghghghghghghghghghghghghghghghghghghghgh" ++
    "ghghghghghghghghghghghghghghghghgiBlCapBlhglgWyC1CEzgmBqiiKgghghghghghghghghghghghghgh" ++
    "ghghghghghghghghghghghghghghghghghghghghghghghghghghghghghghghghghghghghghghghghghghgh" ++
    "ghghghghghghghghghghghghghghghghghghgpghghghghghghghghghghghghghghghghghghghghghghghgh" ++
    "ghghghghghghghghghghghghghghghghghghghghghghghghgpnolqnonolrghghghgonCojsjsjskrjImgkgj" ++
    "iiiigjkmghghghjijqhlg6vzgZy5BZwBvBwghiighghghjhgigoihghghghghghghghghghghghghghghghghg" ++
    "hghghghghghghghghghghghghghghghghghghghghghghghghghghghghghghghgoghgkgeKtghghghghghghg" ++
    "hghghghghghghghghghghghghghghghgzghghghghghghghghghghghghghgEnghghghghghghgjghghghghgh" ++
    "ghghghghghghghghghghghghghghghghghghghghghghghghghgqghghhhghghghgkghgighgjghghghghghgh" ++
    "ghghghghkhkhghghghghghghghjhghhjglghghghg4gVZr5BGlBnEoBjE8qhuhmhhBXqByE91CZ6_VMg_ZNg56" ++
    "5656ghhigihijhn656hhjinhm7hhjhkhgjm756565656565-4Bh4Bh4Bh4Bh4BhgEJ1BhCAu5m5m5"⟩,
  ⟨["vs", "variationselector"],
    "GArihgBZPwvaAXwHv"⟩,
  ⟨["wspace", "whitespace", "space"],
    "pkygDkg6gFO_gCL_q9hlgBvgDdgg"⟩,
  ⟨["xidc", "xidcontinue"],
    "Bwpn5kgh5Bvgqghgigl2h-hOpkruknghgxD0hhjihgmkhghzhCyhEqhkiFlhBligmBooBshghhhhhgo6kj9qlC" ++
    "pkDlhniphyigwB6iDkuB1kgigiBty7kql3hloCqhEgiphyhnihi1hmhgjjioihijogkhhkirqghgiihlkhi1hm" ++
    "hhhhhhighkkhiijgnjhgnvrihohih1hmhhhkiphihiigvjippmhihnihi1hmhhhkioihiinikhhkiphgwhhlji" ++
    "hjjhhghhjhjijrkkjihjigmgupwshih2hviohihjnhhiigijipwjhnhih2hphkiohihjnhmhhjiphisshihByh" ++
    "ihkljnkipqlhihxj3hohgimjgklhghnmpihtB5luhpBnhhghkh3hgh2ikhghmhpijBgg3hmprghghgkphBjkzh" ++
    "xhBjpgB5CpmCtiBlhglgiBqhKshjimhghjiBohjiBghjimhghjiuhB4hjiCiiipouvwC1iljTriwh5lCqjqn1p" ++
    "1rzsshihhsCzjgkhipBhihqmC4nBqlClq-hrkrqBnikrBrk5mqBl7kB-h8iqmptgothvBxCsjpxosDzsB3opjB" ++
    "wiqlBqiiwihBmlQ1iliBlilinhghghgh-iB0hmhgjihmjjilkslihmvhBxhzg8gtgwsBzskgjrxgkgiphgilmg" ++
    "hghghvijlkkgxBoCT3HkmosBlhglgiB3ngv3pmhmhmhmhmhmhmhmh_Qli5uhkikkC1ihiihC-lBqhC9x_BwvQg" ++
    "GN_CgVUsCjBtiIsj70BvkphDyBloiDmiCiihhghn1B1kgzBzsClqpm3jghBwiBjs8jCguqm-hB2ptipm2jCo4i" ++
    "ivikqlililpmhmhBqhtmD6hhipmKdjs2kBwIIkLtiDpBmmsklrhshkhghhhhhDrBhEqmG5yB_iB1Bopmvwvjh4" ++
    "iBhghgjghghghghD9zpn5kgh5qC5jlililiiBjrh5hyhhhuitBiD6ClB0EogEi8jBwvg__t9lBql9iBjknhkBq" ++
    "E9ipmBjkBjkBnoBzsqhuhmhhhqhuhmhhjBzsJ2p1qn4lhBphoCllighBrhhjgi2q2p-Chyhhq1q5CmB3mhCgjh" ++
    "hlnhih8iikgBg8j8Bjnh95B1q1qytxDuCoB3BytBytBnopmBljkh2H6BphhjhwiB3BgqgoBg_1Bq072pCm_vpB" ++
    "7ngt4npmB0hpkjoBjigpCkkjhshgBjxhBkmjB-mhghjhuhpnB6lpmjhnihi1hmhhhkhpihiiigmglmimjkrphg" ++
    "ighBlhphgighjhnth9Cqlpkj-ClhgopFmB1io3lBiCgjgrpBmB4npmz86iukpmmF5B6DlCp1niginhhh9hhios" ++
    "pCmniBtinhh7B-ogoCpjgyCoGnBgvpmohBshovp49i1htCpmhhhBrjghhhoopmlhhhBkhhhlnpJ22pwhBojktq" ++
    "C1gCvc5DmDuxGjCSsDgvBBvw1qDc6lSmGV5B5BWmR4n-hpmCuhpm9ikrB2pjspp0lyNwBsjpGmB_EgCqkB4nwC" ++
    "ghhhrhuFf3oBG1BppIXnjhmhhhJivg9iigujoMrCIkDqlsjonpjhECxpQmBti2Q-kjlonim-jE0iN7C0hCmhhi" ++
    "gihijhrhghmhCghjinhmh7hjhkhgjmhKzi4h4h-h4h-h4h-h4h-h4hniBxQgB2kBxogug2khuBCw-mlG1mhwim" ++
    "hhhklB9BhgDwBsjtipkgKh-xB5O2BpG2BqPlmhjhhhuhGkrmBpCrkpBFmjh6hhhgighphjhghgmgkghghghihh" ++
    "hgighghghghghhhgijhmhjhjhghphwlihkhwDJ0pBAmBJW_BgEB5mG9iFUhuHJwvTtCNiQ9BPiEaqlEC_VXKwH" ++
    "v"⟩,
  ⟨["xids", "xidstart"],
    "Ch5m5Bvgqgkgl2h-hOpkruknghgEhkhhjihgmghihghzhCyhEqoFlhBligmBoCn6kjBtBqBjhhDihgvhnhqiig" ++
    "wgh99C4rg4Bgphkgl1kgpgjg34nql3hlxBpB6B1jgygnpvvknihi1hmhgjjjgwgthhiuhqgolkhi1hmhhhhhh_" ++
    "jhgziwohih1hmhhhkjgygvh3grnihi1hmhhhkjg-hhivgxghljihjjhhghhjhjijr2gB0nhih2hvjg6iigih-g" ++
    "knhih2hphkjg_hhhvhxohihBoigwglioi4llxj3hohgimB6BvhgtmB6hhghkh3hghphgqgikhg1jBggB_nhBj7" ++
    "kDzBq0gwlkjjgjhnikssgxBlhglgiBqhKshjimhghjiBohjiBghjimhghjiuhB4hjiCiBlvwC1iljTriwh5lCq" ++
    "jqnxtyuxushivBzBjgkgCjC4nBohglClq-Bx9ikrBrk5B22pB0CygC9BuxnB29thqBr6BjBpiqBjiqlBqiiBpj" ++
    "hlhhjglF_CgI1iliBlilinhghghgh-iB0hmhgjihmjjilkslihmD0gtgwsDlgkgiphgilmghghghvijlkkgxBo" ++
    "CT3HkmjjhsBlhglgiB3ngw2pmhmhmhmhmhmhmhmRmi5onkikkC1mihC5hjlBqhC9x_BwvQgGN_CgVUsCjBtiIs" ++
    "jvqh0Buw-iCvBnoiDmiCiihhghn1vhihjh29BzuBxB-ljghhr7q258nBu8gwkhpqkhBo3ihn02jgjBxhgjhiki" ++
    "ghg4iiqnislililpmhmhBqhtmDy9Kdjs2kBwIIkLtiDpBmmsklghphshkhghhhhhDrBhEqmG5yB_iB1BopD3gh" ++
    "gjghghghghD9Bk5m5rB3i-jlililiiBjrh5hyhhhuitBiD6ClB0Ir8jBwBv_t9lBlq9iBjknhkBqE9yBjkBjkB" ++
    "noBzsqhuhmhhhqhuhmhhjBzsJ2p1qn4lhBphoCllighBrhhjgi2q2p-Chyhhq1q5CmB3mhCggvjhih8Bq8j8Bj" ++
    "nh77B1q1qytxDuCoB3BytBytBjBm7p2H6BpmhwiB78qgo1BqxBu072sB0B5higtBsBg46Bj9gigoBijgsBvuj1" ++
    "ghgBjxh4zhB_mhghjhuhpnBuBmnihi1hmhhhkjgygsk-phgighBlhg5ghgBsB0yj0i-Bv0hhgF4BuBpjBkBv0g" ++
    "B7BqtgCn6BlmF5BrD0B__niginhhh3vghgC-niBmwghg8gqBnng1grBtzgyCoGnBg_ohBkxgBx9DwmhhhBl1g5" ++
    "lhhh_ugKnyvghshBhD8gCvc5DmDuxGjCSsDgvBBvxl5Dc6lSmGV59BXiR4n-xCux9yBvwj_0lyNwBsGzB_EgCq" ++
    "lgCisCghhg8Ff3oBG1BppIXnjhmhhhJivg9iigujoMrCIkDqlsjonpFbmC0hCmhhigihijhrhghmhCghjinhmh" ++
    "7hjhkhgjmhKzi4h4h-h4h-h4h-h4h-h4hnBZ0-mlIlB9EyBsqmwgKh9yBrPk7Hk9igPvmhjhhhuhGkB7CjngBF" ++
    "0jh6hhhgighphjhghgmgkghghghihhhgighghghghghhhgijhmhjhjhghphwlihkhwEKkBJW_BgEB5mG9iFUhu" ++
    "HJwvTtCNiQ9BPiEaqlEC_"⟩]

end ToolGate.Unicode
