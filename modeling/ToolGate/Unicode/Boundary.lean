/-
Break classes of code points (Unicode 16.0): what a character is to the rules that find the ends
of user-perceived characters, words and sentences. Written in the table text of `CodeSet.decode`.
-/
import ToolGate.Unicode.CodeSet

namespace ToolGate.Unicode

/-- Classes for the ends of user-perceived characters. -/
def graphemeTable : List NamedSet := [
  ⟨["cn", "control"],
    "gphhhxC_BgtgBLugEPxgBf8gih4mBxvBXUvgHwrNB0vBCDgjFGvnYLUl_DgD_HwDQv"⟩,
  ⟨["cr"],
    "tg"⟩,
  ⟨["ex", "extend"],
    "YgDvIzmInBshghhhhhgCoqBw0wgDlmilihhjBjg-6C7qB6opg4jhohihkBriB7oBq3h_B3ghgknkgjmqh9gB6g" ++
    "hgijogpgqh6gihB5gkhkhiijg-hjgrhB5gkkhhkg0h2lhgB6ghhhjogniqh-gB7ghgsgpgBogjgB3ghilihjnh" ++
    "rh9gB6gihhgjihjnhrh8hB5hhgijogpgqh9gCogkgiihgogCxgimsnDigiormCph7ghghgB3thkhhlqhBjpgDm" ++
    "jhlhhih5hkiwjtgihmgvgV_idyj8i9h-hCghhmogiqpgBtihgD1hBigD2ikhpgmiG7higB6ghmhghginmpigBw" ++
    "-BxjBwpkiBmoshBgjilB4ghhjghkB4nihE4ihshmkgmgjhGmB_QsgGjBgCf-iEtgDg_RqlDphdO0jhpBghCwhI" ++
    "wgjgkg5hlgE3h6xtgBmn5qhgBsiBwgijihigBkgCjlihihsgogBvgBzghiihlhhgBqhogHugigkgTZwgXhvwvL" ++
    "uhS9gHigE1kBUmihhljBoikgFlhR9jChkJ9hCvjCmqBxjD7gB2uBpgihqiBxjihngB9iBkkhnB-gshB0ohgoji" ++
    "gC_iijmgigE9gjn1hB5hhghgsgpgumjkCjgilhgighikihguhC1niihg3gCxgilhgighhhhHrgijmhhh7hC1ni" ++
    "ghhDqghginDliijhkIjohhH1gqjkgEwjihkgBgpBolijogpliiBushhM2mhlhgCy1imhhhhD6ljghhhmhgCohj" ++
    "ghgK7hrhB0kli3gFHlgmuLGorjiCOgkB7mBA4gB_jCxgrhTFrhEThBti2Q-kjlonim-jE0iBd7B2kBxogug2kh" ++
    "uBKwmhwimhhhkDkgFgmL3gB9jP8jH-hXgmDtmCVwkYDBgC_EgHv"⟩,
  ⟨["l"],
    "EIgC_BGAg8"⟩,
  ⟨["lf"],
    "qg"⟩,
  ⟨["lv"],
    "BLAgg7g7g7g7g7g7g7g7g7g7g7g7g7g7g7g7g7g7g7g7g7g7g7g7g7g7g7g7g7g7g7g7g7g7g7g7g7g7g7g7g7" ++
    "g7g7g7g7g7g7g7g7g7g7g7g7g7g7g7g7g7g7g7g7g7g7g7g7g7g7g7g7g7g7g7g7g7g7g7g7g7g7g7g7g7g7g7" ++
    "g7g7g7g7g7g7g7g7g7g7g7g7g7g7g7g7g7g7g7g7g7g7g7g7g7g7g7g7g7g7g7g7g7g7g7g7g7g7g7g7g7g7g7" ++
    "g7g7g7g7g7g7g7g7g7g7g7g7g7g7g7g7g7g7g7g7g7g7g7g7g7g7g7g7g7g7g7g7g7g7g7g7g7g7g7g7g7g7g7" ++
    "g7g7g7g7g7g7g7g7g7g7g7g7g7g7g7g7g7g7g7g7g7g7g7g7g7g7g7g7g7g7g7g7g7g7g7g7g7g7g7g7g7g7g7" ++
    "g7g7g7g7g7g7g7g7g7g7g7g7g7g7g7g7g7g7g7g7g7g7g7g7g7g7g7g7g7g7g7g7g7g7g7g7g7g7g7g7g7g7g7" ++
    "g7g7g7g7g7g7g7g7g7g7g7g7g7g7g7g7g7g7g7g7g7g7g7g7g7g7g7g7g7g7g7g7g7g7g7g7g7g7g7g7g7g7g7" ++
    "g7g7g7g7g7g7g7g7g7g7g7g7g7g7g7g7g7g7g7g7g7g7g7g7g7g7g7g7g7g7g7g7g7g7g7g7g7g7g7g7g7g7g7" ++
    "g7g7g7g7g7g7g7g7g7g7g7g7g7g7g7g7g7g7g7g7g7g7g7g7g7g7g7g7g7g7g7g7g7g7g7g7g7g7g7g7g7g7g7" ++
    "g7g7g7g7g7g7g7g7g7g7g7g7g7g"⟩,
  ⟨["lvt"],
    "BLAh6h6h6h6h6h6h6h6h6h6h6h6h6h6h6h6h6h6h6h6h6h6h6h6h6h6h6h6h6h6h6h6h6h6h6h6h6h6h6h6h6h" ++
    "6h6h6h6h6h6h6h6h6h6h6h6h6h6h6h6h6h6h6h6h6h6h6h6h6h6h6h6h6h6h6h6h6h6h6h6h6h6h6h6h6h6h6h" ++
    "6h6h6h6h6h6h6h6h6h6h6h6h6h6h6h6h6h6h6h6h6h6h6h6h6h6h6h6h6h6h6h6h6h6h6h6h6h6h6h6h6h6h6h" ++
    "6h6h6h6h6h6h6h6h6h6h6h6h6h6h6h6h6h6h6h6h6h6h6h6h6h6h6h6h6h6h6h6h6h6h6h6h6h6h6h6h6h6h6h" ++
    "6h6h6h6h6h6h6h6h6h6h6h6h6h6h6h6h6h6h6h6h6h6h6h6h6h6h6h6h6h6h6h6h6h6h6h6h6h6h6h6h6h6h6h" ++
    "6h6h6h6h6h6h6h6h6h6h6h6h6h6h6h6h6h6h6h6h6h6h6h6h6h6h6h6h6h6h6h6h6h6h6h6h6h6h6h6h6h6h6h" ++
    "6h6h6h6h6h6h6h6h6h6h6h6h6h6h6h6h6h6h6h6h6h6h6h6h6h6h6h6h6h6h6h6h6h6h6h6h6h6h6h6h6h6h6h" ++
    "6h6h6h6h6h6h6h6h6h6h6h6h6h6h6h6h6h6h6h6h6h6h6h6h6h6h6h6h6h6h6h6h6h6h6h6h6h6h6h6h6h6h6h" ++
    "6h6h6h6h6h6h6h6h6h6h6h6h6h6h6h6h6h6h6h6h6h6h6h6h6h6h6h6h6h6h6h6h6h6h6h6h6h6h6h6h6h6h6h" ++
    "6h6h6h6h6h6h6h6h6h6h6h6h6h6"⟩,
  ⟨["pp", "prepend"],
    "BQglG3gBxgMghCwgBDrgCAbugvgH0hQtgBLtghgH4gCplV8gN7g"⟩,
  ⟨["ri", "regionalindicator"],
    "DcPm5"⟩,
  ⟨["sm", "spacingmark"],
    "CIjgB3giiojhhByhB7hmhihB2gB6iCigB6ioghhB1hB8gmhihDyghhjihiB0iB9jB9hB6gighhBuguhB7hlihi" ++
    "B1hCshmmzhB_gD_gEqhB_gFxgph5hBsgBZxgnnhhK6jiikhhlHghB6ghg1lExgB5jCgg-gkhB_giihgB1nohFr" ++
    "g1gBCZrhigC4hByvEugBwgBwhkhihDvhih4gE9gihlgHthhhhhhgZAzghgD_gBtikhDzg4hB7gBwipgugC9ijh" ++
    "Fsi_hB7ghjihih1hC1hvghhDniohjgDrhmghhhgigHuhmjigDxiohhgDtghhD2gIlipgH4khhnghgEuiojkgC0" ++
    "g9hB-gM3gugDqgngigG1kkhhgK-hsgBwhohQPqiDRkB2"⟩,
  ⟨["t"],
    "ENoC3BROrBw"⟩,
  ⟨["v"],
    "ELgCnBRQo2BFM8gjj"⟩,
  ⟨["zwj"],
    "IAtg"⟩]

/-- Classes for the ends of words. -/
def wordTable : List NamedSet := [
  ⟨["le", "aletter"],
    "Ch5m5Bvgqgkgl2h-hO_mBhDwkhhijhgmghihghzhCyhEqoFlhBlijhghBohgDogBsBqBjhhDihgvhnhqiigwgh" ++
    "99C4rg4Bgphkgl1kgpgjg34nql3hlxBpB6B1jgygnpvvknihi1hmhgjjjgwgthhiuhqgolkhi1hmhhhhhh_jhg" ++
    "ziwohih1hmhhhkjgygvh3grnihi1hmhhhkjg-hhivgxghljihjjhhghhjhjijr2gB0nhih2hvjg6iigih-gknh" ++
    "ih2hphkjg_hhhvhxohihBoigwglioi4llxj3hohgimJ5gB_nhBj7kIzBlhglgiBqhKshjimhghjiBohjiBghji" ++
    "mhghjiuhB4hjiCiBlvwC1iljTriwh5lCqjqnxtyuxushiFvC4nkiBhhglClq-Hh2HuBuxnB29thqBr6BjBpiqB" ++
    "jiqlBqiiBpjhlhhjglF_CgI1iliBlilinhghghgh-iB0hmhgjihmjjilkslihmD0gtgwsDlgkgiphgjkmghghg" ++
    "hjhqijlkkgxBoZtBzBY2HkmjjhsBlhglgiB3ngw2pmhmhmhmhmhmhmhmCwgO1gB1hGoBqhC9x_bSgBEsCjBtiI" ++
    "sjvqh0Buw-iCv4Glihhghn1vhihjh29BzuBxB-ljghhr7q258nBu8gBwBo3ihnE0qnislililpmhmhB5mDy9Kd" ++
    "js2kBwIYkmskB4DhBhLqyB_iB1BorD0khEmBk5m5Cl-jlililiiBjrh5hyhhhuitBiD6ClB0Ir8jBwBv_t9lBl" ++
    "q9iBjknhkBqE9yBjkBjkBnoBzsqhuhmhhhqhuhmhhjBzsJ2p1qn4lhBphoCllighBrhhjgi2q2p-Chyhhq1q5C" ++
    "mB3mhCggvjhih8Bq8j8Bjnh77B1q1qytxDuCoB3BytBytBjBm7p2H6BpmhwiB78qgo1BqxBu072sB0B5higtBs" ++
    "Bg46Bj9gigoBijgsBvuj1ghgBjxh4zhB_mhghjhuhpnBuBmnihi1hmhhhkjgygsk-phgighBlhg5ghgBsB0yj0" ++
    "i-Bv0hhgF4BuBpjBkBv0gB7BqtgKnBrD0B__niginhhh3vghgC-niBmwghg8gqBnng1grBtzgyCoGnBg_ohBkx" ++
    "gBx9DwmhhhBl1g5lhhh_ugKnyvghshBhD8gCvc5DmDuxGjCSsDgvBBvxl5Dc6lSmGV59BXiR4n-xCux9yBvwj_" ++
    "0lyNwBsGzB_EgCqlgCisCghhgTA8DqlsjonpFbmC0hCmhhigihijhrhghmhCghjinhmh7hjhkhgjmhKzi4h4h-" ++
    "h4h-h4h-h4h-h4hnBZ0-mlIlB9EyBsqmwgKh9yBrPk7Hk9igPvmhjhhhuhGkB7CjngBF0jh6hhhgighphjhghg" ++
    "mgkghghghihhhgighghghghghhhgijhmhjhjhghphwlihkhwT05m5m5"⟩,
  ⟨["cr"],
    "tg"⟩,
  ⟨["dq", "doublequote"],
    "Big"⟩,
  ⟨["extend"],
    "YgDvIzmInBshghhhhhgCoqBw0wgDlmilihhjBjg-6C7qB6opg4jhohihkBriB7oBq3hBgB2ihxhmqh9iB4ghmi" ++
    "hiipgqh6giiB4ghkkhiijg-hjgriB4ghnhihi0h2lhiB4ghmihiiniqh-gB7kjihjpgBokB3ghmhihjnhrh9iB" ++
    "4ghmhihjnhrhvgsjB3hhmhihjpgqh9iCmgklhghnyhB9gimsnDigiormCph7ghghgkhBxzhhlqhBjpgDkz3jki" ++
    "hiimjjtrhgqjV_idyj8i9h-hCg_pgBtihgD1hBigD2rkrG7kB5ph8igBw-BxkBvwBmosi-sB4tBwzE4ih0kgmg" ++
    "iiGmB_QsgGjBgCf-iEtgDg_RqlDphdO0jhpBghCwhIwgjgkg3kkgCzhByx6xtgBmn5sBsjBvtBkgCjtsgohBti" ++
    "ByghiihlhhgBpklhHsnhhTZwgXhvwvLuhS9gHigE1kBUmihhljBoikgFlhR9jChkJ9hCvjCmqBxjD6iB1uBpgi" ++
    "hqjBtqngB9iBktwhBsgsiBwtojhhC8rmgigE9r1jB3hhmihiipgqhimjkCjohgighjhkhguhCyx3gCxzHrmio7" ++
    "hCywDqsDluIguH1lhhijhghhEtmimjg8pBomhjogpqBuvM1nhnCy1htD6ljghhhmhgCikhhhkK7jphhgBwmjk3" ++
    "gFHlgmuLGoxCOgkB7mBA4ghB2njCxgrhTFrhEThBti2Q-kjlonim-jE0iBd7B2kBxogug2khuBKwmhwimhhhkD" ++
    "kgFgmL3gB9jP8jH-hXgmDtmCVwkYDBgC_EgHv"⟩,
  ⟨["ex", "extendnumlet"],
    "C_gHevgvhzgBXO-h4iHvg"⟩,
  ⟨["fo", "format"],
    "FtgBKyl2gGggBxgMghCwgDZrgBf_h6kBxkhpBXUvgH5iEGhgvgIbivBCDgjFGvnYLUmg"⟩,
  ⟨["hl", "hebrewletter"],
    "BOw6kjBdJqghphshkhghhhhhp"⟩,
  ⟨["ka", "katakana"],
    "MBxkDlhjC6hjHwvGwBuhC3BTAuB3BMCyjhmhhhgI_iByguj"⟩,
  ⟨["lf"],
    "qg"⟩,
  ⟨["ml", "midletter"],
    "B6gD8gWvgO3gE0gGRygBXPrgChgGkg"⟩,
  ⟨["mn", "midnum"],
    "BsgugaigQqgEihC-gMrgGCrgBXOrgjgB7gjgF3gug"⟩,
  ⟨["mb", "midnumlet"],
    "BugHfphqgBXRtgF0gmg"⟩,
  ⟨["nl", "newline"],
    "rhD4gHdih"⟩,
  ⟨["nu", "numeric"],
    "BwpBRmphgEkpGmpM8pD2pD2pD2pD2pD2pD2pD2pD2pD2pDgpD2pCmpI2pCmpBampBmpJspEgpFmpmpF2pC2pEm" ++
    "pmpBCOmpVmpBmpGmp2pC2pM2pUY2pBMmpCEmpmpY8pEgpB8pEwpI2pK2pD2pL2pDmpmzCspNmpDmpU2pC2pH2p" ++
    "CmpNmpQO2pCJmpC2pEmpQ2pXb2pCW0BxCKgpNmpP2pH3pa1pEU2p"⟩,
  ⟨["ri", "regionalindicator"],
    "DcPm5"⟩,
  ⟨["sq", "singlequote"],
    "Bng"⟩,
  ⟨["wsegspace"],
    "BggFS_gCL_mhiC0gDdgg"⟩,
  ⟨["zwj"],
    "IAtg"⟩]

/-- Classes for the ends of sentences. -/
def sentenceTable : List NamedSet := [
  ⟨["at", "aterm"],
    "BugHf1gBXRtgF7g"⟩,
  ⟨["cl", "close"],
    "BigkiBxghg9ghgBtgvgDT-jBa9hCL7n5hqhB2huhT5j9hBBwlntCvh_pMz1B_jBghBAituhip4gynNrpinhiBT" ++
    "I-hG3h8vihwlFphBxghg9ghghhhhBdYyi"⟩,
  ⟨["cr"],
    "tg"⟩,
  ⟨["ex", "extend"],
    "YgDvIzmInBshghhhhhgCoqBw0wgDlmilihhjBjg-6C7qB6opg4jhohihkBriB7oBq3hBgB2ihxhmqh9iB4ghmi" ++
    "hiipgqh6giiB4ghkkhiijg-hjgriB4ghnhihi0h2lhiB4ghmihiiniqh-gB7kjihjpgBokB3ghmhihjnhrh9iB" ++
    "4ghmhihjnhrhvgsjB3hhmhihjpgqh9iCmgklhghnyhB9gimsnDigiormCph7ghghgkhBxzhhlqhBjpgDkz3jki" ++
    "hiimjjtrhgqjV_idyj8i9h-hCg_pgBtihgD1hBigD2rkrG7kB5ph8igBw-BxkBvwBmosi-sB4tBwzE4ih0kgmg" ++
    "iiGmB_QshGiBgCf-iEtgDg_RqlDphdO0jhpBghCwhIwgjgkg3kkgCzhByx6xtgBmn5sBsjBvtBkgCjtsgohBti" ++
    "ByghiihlhhgBpklhHsnhhTZwgXhvwvLuhS9gHigE1kBUmihhljBoikgFlhR9jChkJ9hCvjCmqBxjD6iB1uBpgi" ++
    "hqjBtqngB9iBktwhBsgsiBwtojhhC8rmgigE9r1jB3hhmihiipgqhimjkCjohgighjhkhguhCyx3gCxzHrmio7" ++
    "hCywDqsDluIguH1lhhijhghhEtmimjg8pBomhjogpqBuvM1nhnCy1htD6ljghhhmhgCikhhhkK7jphhgBwmjk3" ++
    "gFHlgmuLGoxCOgkB7mBA4ghB2njCxgrhTFrhEThBti2Q-kjlonim-jE0iBd7B2kBxogug2khuBKwmhwimhhhkD" ++
    "kgFgmL3gB9jP8jH-hXgmDtmYFW1C_EgHv"⟩,
  ⟨["fo", "format"],
    "FtgBKyl2gGggBxgMghCwgDZrgBf8gih6kBxkhpBXUvgH5iEGhgvgIbivBCDgjFGvnYLUmg"⟩,
  ⟨["le", "oletter"],
    "N7gkjGwgBkmmr6ghgElgPkgD26kkBsBqBjhhDihgvhnhqiigwgh99C4rg4Bgphkgl1kgpgjg34nql3hlxBpB6B" ++
    "1jgygnpvvknihi1hmhgjjjgwgthhiuhqgolkhi1hmhhhhhh_jhgziwohih1hmhhhkjgygvh3grnihi1hmhhhkj" ++
    "g-hhivgxghljihjjhhghhjhjijr2gB0nhih2hvjg6iigih-gknhih2hphkjg_hhhvhxohihBoigwglioi4llxj" ++
    "3hohgimB6BvhhsmB6hhghkh3hghphhpgikhg1jBggB_nhBj7kDzBq0gwlkjjgjhnikssgChBqiKrhjimhghjiB" ++
    "ohjiBghjimhghjiuhB4hjiCiBlvDxTriwh5lCqjqnxtyuxushivBzBjgkgCjC4nkiBhhglClq-Bx9ikrBrk5B2" ++
    "2pB0CygC9BuxnB29thqBr6BjBpiqBjyBqiiBpjhlhhjgBB6jCniijCdnB3ngw2pmhmhmhmhmhmhmhmCwgO1i5o" ++
    "nkikkC1mihC5hjlBqhC9x_BwvQgGN_CgVUsCjBtiIsjvqhCigwgBgCvBnoDogmgDngjmhihjh29BzuBxB-ljgh" ++
    "hr7q258nBu8gwkhpqkhBo3ihn02jgjBxhgjhikighg4iiqnislililpmhmExBi9Kdjs2kBwIIkLtiDpCjghphs" ++
    "hkhghhhhhDrBhLqyB_iB1BorD0khEmDpB3i-jlililiiBjrh5hyhhhuitBiD6ClB0Ir8jBwBv_t9lBlq9iBjkn" ++
    "hkD6CtDiBnoBzC8BzsJ2p1qn5hD9lighBrhhjgi2q2p-Chyhhq1q5CmB3mhCggvjhih8Bq8j8Bjnh77B1q1qyt" ++
    "xDuCoF3BjBml_gIwBpmhwiB78qgo1BqxBu072sB0B5higtBsBg46Bj9gigoBijgsBvuj1ghgBjxh4zhB_mhghj" ++
    "huhpnBuBmnihi1hmhhhkjgygsk-phgighBlhg5ghgBsB0yj0i-Bv0hhgF4BuBpjBkBv0gB7BqtgCn6BlmF5BrG" ++
    "zniginhhh3vghgC-niBmwghg8gqBnng1grBtzgyCoGnBg_ohBkxgBx9DwmhhhBl1g5lhhh_ugKnyvghshBhD8g" ++
    "Cvc5DmDuxGjCSsDgvBBvxl5Dc6lSmGV59BXiR4n-xCux9yBvwj_0lyNwBsMzCqlgCisCghhg8Ff3oBG1BppIXn" ++
    "jhmhhhJivg9iigujoMrCIkDqlsjonpITwgP1BsqmwgKh9yBrPk7Hk9igPvmhjhhhuhGkEmgBF0jh6hhhgighph" ++
    "jhghgmgkghghghihhhgighghghghghhhgijhmhjhjhghphwlihkhwEKkBJW_BgEB5mG9iFUhuHJwvTtCNiQ9BP" ++
    "iEaqlEC_"⟩,
  ⟨["lf"],
    "qg"⟩,
  ⟨["lo", "lower"],
    "Dh5BvgqgkgBk3hnhghghghghghghghghghghghghghghghghghghghghghghghghghghghhhghghghghghghgh" ++
    "hhghghghghghghghghghghghghghghghghghghghghghghgighghiighgigjhkgigjiigighghgighhhgigjgh" ++
    "gihiimgigighghghghghghghghhhghghghghghghghghhighgjghghghghghghghghghghghghghghghghghgh" ++
    "ghghghghghghghghghghghmigihhgkghghghghCkhBjnh-kEsghgjgijyg7Bihhjihghghghghghghghghghgh" ++
    "ghkhgigihBzBvhghghghghghghghghghghghghghghghghgpghghghghghghghghghghghghghghghghghghgh" ++
    "ghghghghghghghgighghghghghghhhghghghghghghghghghghghghghghghghghghghghghghghghghghghgh" ++
    "ghghghghghghghghghghghghghghghghghghghgBwBoCbzgX7lCEiohgD1F_Chghghghghghghghghghghghgh" ++
    "ghghghghghghghghghghghghghghghghghghghghghghghghghghghghghghghghghghghghghghghghghghgh" ++
    "ghghghghghghghghghghghghghghghghghghghohghghghghghghghghghghghghghghghghghghghghghghgh" ++
    "ghghghghghghghghghghghghghghghghghghghghghghghghghoolqnonolqnonotinononokhhmgjihhojiho" ++
    "nqihhD5gtgwsDtgjhjg7gkgkgihojkgBhvkgar5BamBvhgjhhghghgkghhhnjghghghghghghghghghghghghg" ++
    "hghghghghghghghghghghghghghghghghghghghghghghghghghghghghghghghghghghghghhnghgkgsBlhgl" ++
    "geIzghghghghghghghghghghghghghghghghghghghghghghgzghghghghghghghghghghghghghiElghghghg" ++
    "hghghihghghghghghghghghghghghghghghghghghghghghghghghghghghghghghghphghgighghghghgkghg" ++
    "ighihghghghghghghghghghglglghghghghghghghgkghgigjghghghghghg2ihghiZ1BqhtmCvTagmskBBp5B" ++
    "GtBnEoBjE7qhuhmhhOjgiihBphoBIlByD91CZ6_VMg_ZM656mhx656jhghmhq65656565656565656784hl64h" ++
    "l64hl64hl64hlhgBZ0phzmlIlB9CF0Bh"⟩,
  ⟨["nu", "numeric"],
    "BwpBRmphhEjpGmpM8pD2pD2pD2pD2pD2pD2pD2pD2pD2pDgpD2pCmpI2pCmpBampBmpJspEgpFmpmpF2pC2pEm" ++
    "pmpBCOmpVmpBmpGmp2pC2pM2pUY2pBMmpCEmpmpY8pEgpB8pEwpI2pK2pD2pL2pDmpmzCspNmpDmpU2pC2pH2p" ++
    "CmpNmpQO2pCJmpC2pEmpQ2pXb2pCW0BxCKgpNmpP2pH3pa1pEU2p"⟩,
  ⟨["sc", "scontinue"],
    "BshsgBJigFuhPqgEApglgCAqhDfsgBTQuhhg9h9hjgigqgFohsgCpg"⟩,
  ⟨["se", "sep"],
    "ElgHdih"⟩,
  ⟨["sp"],
    "pghhzgD_gFO_gCL_qBkgBvgDdgg"⟩,
  ⟨["st", "sterm"],
    "Bhg9gBKpgEziF0gBriH2gB9ghgjhJlhBXkhY2gkhYlgGmhGsglgJ6hLijFihqhih9iF7hChhd8hpiDPkgtg2hN" ++
    "tgdH8gIuhHjgjgL-hC2hC_gE4hEziEwhH5gUTqhFpg9gChgCX0hBH9kBsjF9hD1jD_iEhhmgwhC4hhhDsgJqhD" ++
    "1hL1hluDphH5iQlghgH7hC3hNkhV0hCqhSZphElgChhrgRphJogTQmgHPog"⟩,
  ⟨["up", "upper"],
    "Ch5Dl2hmBhghghghghghghghghghghghghghghghghghghghghghghghghghghghgighghghghghghghgighgh" ++
    "ghghghghghghghghghghghghghghghghghghghghghhhghgjhhghhhiijhhhijhhhhghghhhgighhhihghhjgn" ++
    "hhhhhhghghghghghghghgighghghghghghghghgihhghihghghghghghghghghghghghghghghghghghghghgh" ++
    "ghghghghghghghghgnhhhighjhghghghgJhghgjgogmghihghhhwhoBjgiijghghghghghghghghghghghglgi" ++
    "ghhiByBwghghghghghghghghghghghghghghghghgpghghghghghghghghghghghghghghghghghghghghghgh" ++
    "ghghghghghhhghghghghghgighghghghghghghghghghghghghghghghghghghghghghghghghghghghghghgh" ++
    "ghghghghghghghghghghghghghghghghgiBlCapBlhglgWyC1CEzgL2ghghghghghghghghghghghghghghghg" ++
    "hghghghghghghghghghghghghghghghghghghghghghghghghghghghghghghghghghghghghghghghghghghg" ++
    "hghghghghghghghghghghghghghghghgpghghghghghghghghghghghghghghghghghghghghghghghghghghg" ++
    "hghghghghghghghghghghghghghghghghghghghghghgpnolqnonolrghghghgon4nononokrkrjskrkIlgkgj" ++
    "iiiigjkmghghghjijqhlg6vzgZy5BZwBvBwghiighghghjhgigoihghghghghghghghghghghghghghghghghg" ++
    "hghghghghghghghghghghghghghghghghghghghghghghghghghghghghghghghgoghgkgeKtghghghghghghg" ++
    "hghghghghghghghghghghghghghghghgzghghghghghghghghghghghghghgEnghghghghghghgjghghghghgh" ++
    "ghghghghghghghghghghghghghghghghghghghghghghghghghgqghghhhghghghgkghgighgjghghghghghgh" ++
    "ghghghghkhkhghghghghghghghjhghhjglghghghg4gVZr5BGlBnEoBjE8qhuhmhhBXqByE91CZ6_VMg_ZNg56" ++
    "5656ghhigihijhn656hhjinhm7hhjhkhgjm756565656565-4Bh4Bh4Bh4Bh4BhgEJ1BhCAu5m5m5"⟩]

end ToolGate.Unicode
