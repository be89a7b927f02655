/-
General categories of code points (Unicode 16.0), in the table text of `CodeSet.decode`.

* `categoryTable` — the single categories; surrogates have none, as they are not characters.
* `categoryGroups` — the groups of categories, such as all letters, by their members.
* `category` — a category or group by any of its names, `any`, `assigned` and `ascii` included.
-/
import ToolGate.Unicode.CodeSet

namespace ToolGate.Unicode

/-- Each general category with its code points. -/
def categoryTable : List NamedSet := [
  ⟨["lu", "uppercaseletter"],
    "Ch5Dl2hmBhghghghghghghghghghghghghghghghghghghghghghghghghghghghgighghghghghghghgighgh" ++
    "ghghghghghghghghghghghghghghghghghghghghghhhghgjhhghhhiijhhhijhhhhghghhhgighhhihghhjgn" ++
    "gigigighghghghghghghgighghghghghghghghgigighihghghghghghghghghghghghghghghghghghghghgh" ++
    "ghghghghghghghghgnhhhighjhghghghgJhghgjgogmghihghhhwhoBjgiijghghghghghghghghghghghglgi" ++
    "ghhiByBwghghghghghghghghghghghghghghghghgpghghghghghghghghghghghghghghghghghghghghghgh" ++
    "ghghghghghhhghghghghghgighghghghghghghghghghghghghghghghghghghghghghghghghghghghghghgh" ++
    "ghghghghghghghghghghghghghghghghgiBlCapBlhglgWyC1CEzgmBqiiKgghghghghghghghghghghghghgh" ++
    "ghghghghghghghghghghghghghghghghghghghghghghghghghghghghghghghghghghghghghghghghghghgh" ++
    "ghghghghghghghghghghghghghghghghghghgpghghghghghghghghghghghghghghghghghghghghghghghgh" ++
    "ghghghghghghghghghghghghghghghghghghghghghghghghgpnolqnonolrghghghgonCojsjsjskrjImgkgj" ++
    "iiiigjkmghghghjijqhlgB9gCT8BvBwghiighghghjhgigoihghghghghghghghghghghghghghghghghghghg" ++
    "hghghghghghghghghghghghghghghghghghghghghghghghghghghghghghgoghgkgeKtghghghghghghghghg" ++
    "hghghghghghghghghghghghghghgzghghghghghghghghghghghghghgEnghghghghghghgjghghghghghghgh" ++
    "ghghghghghghghghghghghghghghghghghghghghghghghgqghghhhghghghgkghgighgjghghghghghghghgh" ++
    "ghghkhkhghghghghghghghjhghhjglghghghg4gVZr5BGlBnEoBjE8qhuhmhhBXqByE91CZ6_VMg_ZNg565656" ++
    "ghhigihijhn656hhjinhm7hhjhkhgjm756565656565-4Bh4Bh4Bh4Bh4BhgEJ1Bh"⟩,
  ⟨["ll", "lowercaseletter"],
    "Dh5B6gBp3hnhghghghghghghghghghghghghghghghghghghghghghghghghghghghhhghghghghghghghhhgh" ++
    "ghghghghghghghghghghghghghghghghghghghghghgighghiighgigjhkgigjiigighghgighhhgigjghgihi" ++
    "imgigighghghghghghghghhhghghghghghghghghhighgjghghghghghghghghghghghghghghghghghghghgh" ++
    "ghghghghghghghghghmigihhgkghghghghCkh6Ghghgjgjiyg7Bihhjihghghghghghghghghghghghkhgigih" ++
    "BzBvhghghghghghghghghghghghghghghghghgpghghghghghghghghghghghghghghghghghghghghghghghg" ++
    "hghghgighghghghghghhhghghghghghghghghghghghghghghghghghghghghghghghghghghghghghghghghg" ++
    "hghghghghghghghghghghghghghghgBwBoCanBqiiX4lCEiohgD1BrB_shBhDmghghghghghghghghghghghgh" ++
    "ghghghghghghghghghghghghghghghghghghghghghghghghghghghghghghghghghghghghghghghghghghgh" ++
    "ghghghghghghghghghghghghghghghghghghghohghghghghghghghghghghghghghghghghghghghghghghgh" ++
    "ghghghghghghghghghghghghghghghghghghghghghghghghghoolqnonolqnonotinononokhhmgjihhojiho" ++
    "nqihhIygjhjg7gkgkgihojkgB1gCVrBvhgjhhghghgkghhhllghghghghghghghghghghghghghghghghghghg" ++
    "hghghghghghghghghghghghghghghghghghghghghghghghghghghghghghghhnghgkgsBlhglgeIzghghghgh" ++
    "ghghghghghghghghghghghghghghghghghghgzghghghghghghghghghghghghghgEnghghghghghghihghghg" ++
    "hghghghghghghghghghghghghghghghghghghghghghghghghghghghghnhghgighghghghgkghgighihghghg" ++
    "hghghghghghghglglghghghghghghghgkghgigjghghghghghg6gjgZ1BqlonCvTagmskBBp5BGtBnEoBjE7qh" ++
    "uhmhhBYjByD91CZ6_VMg_ZM656mhx656jhghmhq65656565656565656784hl64hl64hl64hl64hlhgBZ0phzm" ++
    "lCP3Bh"⟩,
  ⟨["lt", "titlecaseletter"],
    "OlgigigBmgHM1nononsgvgBvg"⟩,
  ⟨["lm", "modifierletter"],
    "VwxkruknghgElglgO-gHmgFkhIthkg_gpgjgFggFngBG0gD_gR1gBW6gDrgTjgOwlFuB-tgBiBkVxgtgwsCe_h" ++
    "HxgF_gO1gBrklgDhhC9ibY2gBHilIugDyg8hD5oCwg3gDpijhO1g2gEpgDsg1hDnjpgVAmgBthBfglhBphoBMz" ++
    "gBggXOwjP8iBohRmsCghhgQAsjhmhhMBxB9GpmdtgBC_g"⟩,
  ⟨["lo", "otherletter"],
    "FqgvgIggkjGwgZ76kjBt_hpBjhhDihg4hqiigwgh99C4rg4Bg11Bq4nql3hlxBoB7B1jgygnpwuknihi1hmhgj" ++
    "jjgwgthhiuhqgolkhi1hmhhhhhh_jhgziwohih1hmhhhkjgygvh3grnihi1hmhhhkjg-hhivgxghljihjjhhgh" ++
    "hjhjijr2gB0nhih2hvjg6iigih-gknhih2hphkjg_hhhvhxohihBoigwglioi4llxj3hohgimB6BvhhslB7hhg" ++
    "hkh3hghphhpgik3jBggB_nhBj7kDzBq0gwlkjjgjhnikssgDxKohjimhghjiBohjiBghjimhghjiuhB4hjiCiB" ++
    "lvDxTriwh5lCqmnnxtyuxushivBzBogCjBihB0nkiBhhglClq-Bx9ikrBrk5B22pB0FwBuxnB29thqBr6BjBpi" ++
    "q9DxjhlhhjgBB6jCf3B342pmhmhmhmhmhmhmhmRngB1gkC1oghC5kglBqhC9x_BwvQgGN_CgUQ0hBD2CjBnoIr" ++
    "kvqhCigBxClFpgDngjmhihjh29BzuBxB-ljghhr7q258nBuBtkioqkhBo3ihn0vhljgjBxhgjhikighg4hjqng" ++
    "ulililpmhmExBi9Kdjs2kBwIIkLtiDpCjghphshkhghhhhhDrBhLqyB_iB1BorD0khEmDpphBsi-jlililiiBj" ++
    "rh5hyhhhuitBiD6Ml8jBwBv_tzhnmBlq9iBjknEgCtDiBnoBzC8BzsJ2p1qnE4lighBrhhjgi2q2p-Chyhhq1q" ++
    "5CmB3mhCggvjhih8Bq8j8Bjnh77B1q1qytxDuCoF3BjBmjhgJwBpmhwiB78qgo1BqxBu072sB0B5higtBsBg46" ++
    "Bj9gigoBijgsBvuj1ghgBjxh4zhB_mhghjhuhpnBuBmnihi1hmhhhkjgygsk-phgighBlhg5ghgBsB0yj0i-Bv" ++
    "0hhgF4BuBpjBkBv0gB7BqtgCn6BlmF5BrGzniginhhh3vghgC-niBmwghg8gqBnng1grBtzgyCoGnBg_ohBkxg" ++
    "Bx9DwmhhhBl1g5lhhh_ugKnyvghshBhD8gCvc5HmGjCSsDgvBBvxl5Dc6lSmGV59BXiR4n-xCux9yBvBz0lyNz" ++
    "BnM1CqlgFvFf3oBG1BppIX3Jivg9iigujoMrCIkDqlsjonpITwgP1BsBhgKh9yBrPk6Hl9igPvmhjhhhuhGkBJ" ++
    "7jh6hhhgighphjhghgmgkghghghihhhgighghghghghhhgijhmhjhjhghphwlihkhwEKkBJW_BgEB5mG9iFUhu" ++
    "HJwvTtCNiQ9BPiEaqlEC_"⟩,
  ⟨["mn", "nonspacingmark"],
    "YgDvIzkIpBshghhhhhgCoqBw0wgDlmilihhjBjg-6C7qB6opg4jhohihkBriB7oBq3h_B3ghgknkgjmqh9gB6g" ++
    "kjog0h6gihB5gkhkhiijg-hjgrhB5gkkhhkg0h2lhgB6gighjognhrh-gB9gsgBygjgB3ghilihjnhrh9gB6gi" ++
    "gmglh0h8hB5hkjog0h9gCognihgC6gimsnDigiormCph7ghghgB3thkhhlqhBjpgDmjhlhhih5hkiwjtgihmgv" ++
    "gV_idyi9h-h-hCghhmogiqpgBtihgD1hBigD2ikhpgmiG7higB6ghmhghginmpigBwthvBxjBwghkhglgBoosh" ++
    "BgjihhiB4ghhjghiB6nihE4ihshmkgmgjhGmB_WwskgjrCf-iEtgDg_RqjDrhdO0gkpBghCwhIwgjgkg5hlgE3" ++
    "h6xtgBmn5qBuiBwgijihBngCjlihihsgogBvgBzghiihlhhgBqhogHugigkgTZwgXhvwvetgHigE1kBUmihhlj" ++
    "BoikgFlhR9jChkJ9hCvjCmqBxjD7gB2uBpgihqiBxjihngB9iBkkhnB-gshB0oqjigC_iighhmgigE9gjn1hB5" ++
    "hjgBlmjkCmltghghguhC1niihg3gC0lhgkhhhHujmhhh7hC1nighhDqghgilhgDlghgijhkIjohhIghhgkgEwj" ++
    "ihkgBgpBolijogpliiBushhM2mhlhgCy1imhhhhD6ljghhhmhgCohjghgK7hrhB0klghg3gFHlgmuLGorjiCOg" ++
    "kB7mBA4gB_jCxgTF4hEThBti2Rgixnim-jE0iBd7B2kBxogug2khuBKwmhwimhhhkDkgFgmL3gB9jP8jH-hXgm" ++
    "DtmYFd1Hv"⟩,
  ⟨["mc", "spacingmark"],
    "CIjgB3giiojhhByhB6imhihqgBrgB6iCigB6ioghhB1hB6ghgmhihqgDmhhhjihiqgBpiB9jB9hB6ghkihhhph" ++
    "8guhB6ilihiqgBqhCrimnyhKqhB_gFrhkgmgih5hqiim1hiligqiBT4g-gEhgnnhhK6jiikhhlHghB6ghgpghh" ++
    "olExgBwglghkhhB9g-gkhigB8giihgjhBwnohFrg1gEZ2hdfzhigC4hByvEuhBvgBwhkhiiDuhih4gBtghgDtg" ++
    "ihlgHthhhhhhgZAzghgD_gBtikhDzg4hB7gBwiphtgC9ijhhgFqi_hB6hhjihiipgqhC0ingighjhhhgDliohj" ++
    "gDqimghjigHtimjigDxiohhgDtghhmgDnghhkgIlipgH3lhhkgighgEuiojkgC0g9hB-gM3gugDqgngigG1kkh" ++
    "hgK-hsgBwhohhgQPoiDRkB2DohYLzhml"⟩,
  ⟨["me", "enclosingmark"],
    "BEohFR0gBQ-jhiBBMri"⟩,
  ⟨["nd", "decimalnumber", "digit"],
    "BwpBRmpEmpGmpM8pD2pD2pD2pD2pD2pD2pD2pD2pD2pDgpD2pCmpI2pCmpBampBmpJspEgpFmpmpF2pC2pEmpm" ++
    "pBCOmpVmpBmpGmp2pC2pM2pUY2pBMmpCEmpmpY8pEgpB8pEwpI2pK2pD2pL2pDmpmzCspNmpDmpU2pC2pH2pCm" ++
    "pNmpQO2pCJmpC2pEmpQ2pXb2pCW0BxCKgpNmpP2pH3pa1pEU2p"⟩,
  ⟨["nl", "letternumber"],
    "FXuiCTvBiijDT-g5ouidVrpWSwB0OsgogEmkIBqDu"⟩,
  ⟨["no", "othernumber"],
    "FyhlgiiCJ1lL4lD4iElmG5mxoNxpBB1zBDzpPggBU1gjlmpGmvBpgW2B7Cu1T29BLpgBE0jEqp-nhuBgpBnudL" ++
    "wlWGxBsChjxhK16BkjBJ0n5mBnoCrk2lFghiviBtCgoB0h-iCrkDon4nBpmKqlLg-E-pBqjDwmEmzL7zBKlhNu" ++
    "obnyaz0ScmmY-2ZBpzszDs4FKuodhB6hihjCsBshueis"⟩,
  ⟨["pc", "connectorpunctuation"],
    "C_gHe_hzgBXO-h4iHvg"⟩,
  ⟨["pd", "dashpunctuation"],
    "BtgBK8gBzgDShgBAlgCAplDQhgig_hkg8gN-gzgDvgBTMwhBlgqgFpgDTggJ-g"⟩,
  ⟨["ps", "openpunctuation"],
    "BogByg_gDV-ghgBa-gCL-gjgBmgB3gvgT6ghg-gBB-ghghghghghghgCwgBgghghghghgM0ghghghghghghghg" ++
    "hghghgCgghgBhgBBlghghghg5gyghghghgNsghghghghgjghghghgigBTJhgG3g9ghghghghghghghgjgxghgh" ++
    "gFqgByg_gjgig"⟩,
  ⟨["pe", "closepunctuation"],
    "BpgBzg_gDV9ghgBa-gCNpgB3gvgT6ghg-gBB-ghghghghghghgCwgBgghghghghgM0ghghghghghghghghghgh" ++
    "gCgghgBhgBBlghghghgBsghghghgNsghghghghgjghghghgihBTI-gG5g9ghghghghghghghgjgxghghgFqgBz" ++
    "g_gigig"⟩,
  ⟨["pi", "initialpunctuation"],
    "FrgHbsgihig5gDOoghgkgigvgjg"⟩,
  ⟨["pf", "finalpunctuation"],
    "F7gHa9gjg8gDOoghgkgigvgjg"⟩,
  ⟨["po", "otherpunctuation"],
    "Bhihiighghhqhjh7gCkglguhngV-gogOylBpgB2gigigBsh0hhhtghiCqjDmgBrtHpiB2u_gIlhqgEsgD4gD5g" ++
    "MmgsgLvgC6gqhFouhgDwgCqkkhDvlFrgTkoYlgD8iCnhE9ihiBllhjJ5hG4hEgmhlFghqm8iD8jB7kB-hCgnrg" ++
    "aihonooijiijqhghpDE6jhhDwgEvhkiigiohhhgihqkhpijhghsiiNsiB5gF9gdAihItiDjgqgDzlL8jC2hBoi" ++
    "hgBxhBvgDhswhD8jD-hwhH5gURkmig2g0hijjihjnimghhE1ihiighghhqhjh7gBkgihM6iU8gBwgM-gXngGng" ++
    "_gIwoBmgDwmCimC5jd4kBsjF9mDthhjD-jBwhCvjkgtghiC4lDrgJqhhhDykqhhgDogH62Dpi8sCsgEiiH8gIo" ++
    "iE7gC8nCzihkC9pG3gC_kBqhUlhCqsFvgBDwkCb8hOT7hElgChkogRoiJnjKngTF8gHPnkCbzga-h"⟩,
  ⟨["sm", "mathsymbol"],
    "BrgwiB9ghgBtgkgBlg_gX-gQviGR7gtgBnitiErgBnkmgCkklhkgigigng_highg_IrBghC6g-4BolO1gpgB2n" ++
    "DvgKwki-qvIgEi2B-k_iIhBw0ilBTe8gZ4ghiFkgwiB9ghgEjgmjDNhhBSJxg5g_g5g_g5g_g5g_g5gFZsh"⟩,
  ⟨["sc", "currencysymbol"],
    "BkgD9jBHpgD7gPyhPyhngH1gIngSlgCM7gCGkBgBBb3gVOjgDsgE6gG7hjhHf2jBQY-gCNwg"⟩,
  ⟨["sk", "modifiersymbol"],
    "C-ghgCngmgkgjgQpjstlmhghwD1guhBIigFZ0ghirititithEE8hdTj2phDnhewguhUCmwb7ghgFigBdA3k"⟩,
  ⟨["so", "othersymbol"],
    "FmgigkghgexgIqhD_hGugqgzhH3gQjgL1gEilhgEkgGvgBpgMnivghiil0ghghgElnhlhhljGlhXwpWzgWygE9" ++
    "BhLhppoBMjhhjhhqghhmlhghghgkgrhughhhgB6hpkijhhhhhmh-ihhgh-IsnkzimiCwh95BnmCn2qCxCt2F2h" ++
    "ohB1oDuhH3BsBrCgH_QgBv1hmBmi_hDoHllLlhBu5hC4sG16vkgthsg1hmhKwhkpBgBlpgw-r9ogv_qBmvJ_GO" ++
    "gB_VUwB2bhjqhhgR9iUWmvD_gBtiPkgjgkhthJ5oB5wiihsjgBvBsBT6hSvgDD2gCE1nkwSaqjlgUK2gDbjHvw" ++
    "NzE8DzB8H1qBmiB7li2hn9kB81ChjgF6C2BFpP_B3jBynhthhBWogCa8gEhgWxBrkDjsuiuhuhBk3FgB48tBrk" ++
    "onhulE6H6lW3kwjsjD2kC-mrkgvrkB3opmBno9irkhB-KzstisjplB3nuiqmonEyhC7"⟩,
  ⟨["zs", "spaceseparator"],
    "BggD_gFO_gCL_qBkgBvgDdgg"⟩,
  ⟨["zl", "lineseparator"],
    "IBog"⟩,
  ⟨["zp", "paragraphseparator"],
    "IBpg"⟩,
  ⟨["cc", "control", "cntrl"],
    "g_C_Bg"⟩,
  ⟨["cf", "format"],
    "FtgBKyl2gGggBxgMghCwgDZrgBf8k6kBxkhpBXUvgH5iEGhgvgIbivBCDgjFGvnYLUmg-C_"⟩,
  ⟨["co", "privateuse"],
    "BYAgGH_cBYgBff9iBff9"⟩,
  ⟨["cn", "unassigned"],
    "b4hmjnghg0gMtgBmhByhjgB3n7jmqIugB8hDltB7hBxhvg8hhgrk_gikHtgohih2gnghikhphihknhjiglh5hj" ++
    "gmjih2gngigigihhgljihjihmkghmxpjgpgjg2gngiglhqgjgjhhukhsmngjgohih2gngiglhphihjmjjiglhy" ++
    "pigmijgkiighgiiiijisjlijgkhhlht1ktgjg3gwhpgjgkmigjhhhkhqm2gjg3gqglhpgjgkmiligkhqgjrtgj" ++
    "gBzgjgmjwh6gjgyi4gpghhnihjmghgolqhjrB6j9Bkighglg4ghg3hlghgngqhk_CogBkjBngBkgvgtBkGmghk" ++
    "hhL5gkhnghgkhBpgkhBhgkhnghgkhvgB5gkhCjhBgi6lC2hmhU9iC5m2o4o0rtgjgirC-hqlql6lC5mBrkCmp_" ++
    "gsjsjhiBqhlqBsj6lriB-hChg9hrlqluh_BwCtgFmnB8iviB-kBrhrnBrkQ2hmhBmhmhoghghghg_hB1gvguhm" ++
    "gzhjgpgDlgsh7gtiBhuBhuEsjU61r0BY0hBggK9kBtghkhhB4mit4ongngngngngngngngD-Bh6gC5rG25CwgC" ++
    "2hDnkBrgC-gC2oBwgcTtiB3oK8zF4nGuhighgo0B7iqlB4nCmnslD0q-iCugrjBhgB3ouhqhDn38pmhmhmongn" ++
    "gB8jD-hqlKdkr3jBxjITuhDqBlnrlk6glghgigigD9vN9hB2mh_BqlBzgzgkjlgEnhhgF-imhmhmhjingnplhs" ++
    "g6gzgigvhuBhD7kjjBtiC4gtihBuBuEh9iBxu8jBko-kBrk-gBljuBpE-hqlBkjBkjBonB0qsgvgngigrgvgng" ++
    "iiB0rJ3o2po3mgBqgpCkmhhgBsgiihh3gConpBvzgikBhi7khB_B4j0hBygikogjg9hjjqmpmCg_BnjsoB2i9h" ++
    "7k6mkrnCvCpB2BzsBzmBunqlBmi9niGv_gBqgjhivjB2BsnBq16Bl8z3oCujBkoCkphh5mqlB1gynBnoDgg0qy" ++
    "gBvB9nghgkgvgrlB7kqlkgohih2gngiglgqhihjhhlhknhnilqqghhhgBmgqghhhgkgqgini8C8gl9ConqFlB2" ++
    "hBmBhClqqltyB6lql077hvj3F4B8DjCzrohhhogig-gihsoqClohBuhr6ConCzsCpmqF1BitqlpgBtgup9iBgh" ++
    "2guCongigBsihgigpnqlmgigBlgigmmqJ15mxgBpi9C0huBysc7DlDvglqGkCSrDjsBC2pDc7kSnGV4B6BWlR5" ++
    "m_gqjCxgql-hmpCmpqgng1kzNvB6GlC7DkCrjB5mxB_lqitFf4nBG2BoqIXmkgngigJjuh8jhhtknMsCIjDrkt" ++
    "ipmqhoDa7H6lN0CrBuh3oD0B7H2pBnhGi0CmD50r0rC3o5EmC1gCngihhhihkgsghgngChgkhogng8gkglghin" ++
    "gK0hJkhV-ulgvBCv_lmG0ngxhngiglkB-BghDvBtiuhqjiJ__wB6khOvBqG1BrjhO_ngkgigvgGlhwBoCsjqji" ++
    "YwCkCrB9Ghkg7gighhhgqgkghghlhjhghghgjgighhhghghghghgighhkgngkgkghgqgxkjglgxBziItBsjDkr" ++
    "vhvgvgBlpFuB39sBsjpmitmE5e4jxitiD3jC_lsjhusjB4nqlBon-hsjiB9K0ruhtiqkB4mvhrlpmEzgDmBAlB" ++
    "JXg_EB6lG-hFUitHJxuTuCNhQ-BPhEarkEDgVXCwh9DgD_HwBfQvBff-hBff-h"⟩]

/-- Groups of categories: the names of the group and a name of each member. -/
def categoryGroups : List (List String × List String) := [
  (["c", "other"], ["cc", "cf", "cn", "co"]),
  (["l", "letter"], ["lu", "ll", "lt", "lm", "lo"]),
  (["lc", "casedletter"], ["lu", "ll", "lt"]),
  (["m", "mark", "combiningmark"], ["mn", "mc", "me"]),
  (["n", "number"], ["nd", "nl", "no"]),
  (["p", "punctuation", "punct"], ["pc", "pd", "ps", "pe", "pi", "pf", "po"]),
  (["s", "symbol"], ["sm", "sc", "sk", "so"]),
  (["z", "separator"], ["zs", "zl", "zp"])]

/-- The members of several categories together. -/
def unionOf (names : List String) : CodeSet :=
  CodeSet.ofRanges (names.flatMap fun n =>
    match findNamed categoryTable n with
    | some s => s.ranges
    | none => [])

/-- A category, a group of categories, or one of the sets named beside them. -/
def category (name : String) : Option CodeSet :=
  if name = "any" then some CodeSet.all
  else if name = "ascii" then some ⟨[(0, 127)]⟩
  else if name = "assigned" then (findNamed categoryTable "cn").map CodeSet.complement
  else
    match categoryGroups.find? fun g => g.1.contains name with
    | some g => some (unionOf g.2)
    | none => findNamed categoryTable name

end ToolGate.Unicode
