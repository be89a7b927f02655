/-
The version of the standard in which a code point was assigned (up to 16.0), in the table text
of `CodeSet.decode`. Entries ascend by version; a code point is in the entry of its own version.
-/
import ToolGate.Unicode.CodeSet

namespace ToolGate.Unicode

/-- Each version with the code points it assigned. -/
def ageTable : List NamedSet := [
  ⟨["1.1", "v11"],
    "gP1k9B4C4nBuhp2Cl6hyhkgjglmhghzhBrhmjghghghghxtrhChhrhBopB0ihihj7inihB3BlimhBmhgBmphos" ++
    "6lk3gugjgh5lyttiCnikhuh9ipQnihB0ixikj4wihnihi1hmhgjjighmihiipgkhhki0ngilkhi1hmhhhhhhig" ++
    "hkkhiirjhgnusihmhghih1hmhhhkiphihiigvglpxihnihi1hmhhijinjhiiohkhhikqxhhljihjjhhghhjhji" ++
    "jnhikkjihjpgvruihnhih2hphkkmhihjnhphkpyhhnhih2hphkkmhihjnhnghhkpyhhnhih2hvkliihjpgohkp" ++
    "ExB5k8BlhhgihhgigmjhmhihghgihhshiikhghlipihOiBlqBmkgkC5lCjlCxDAmE6lC5m1iliBlilinhghghg" ++
    "h-iB0huhtilhyiihohBuh2Bjmj6xqBlx-B46BvtC61HxughD4ElBk7q1Eq1E1qCvwzmC1Exjhji7hBihghjjgh" ++
    "mimu-j3htCChB3nghCzkliC9mBnkC9hvDg8jBj87jBxvrkBuhD2kDii-GQhUNlQC6GRtGymskm4hkhghhhhhDr" ++
    "BhLswB_iB1BorBkjs0kphyhjkihghEmighC9iC9jlililiijmhmui"⟩,
  ⟨["2.0", "v20"],
    "BMxwhs0gCJ7CnhBgn6klhgh0jmhgDXhgQvgBCa0KdjCKC6hBff-hBff-hBff-hBff-hBff-hBff-hBff-hBff-" ++
    "hBff-hBff-hBff-hBff-hBff-EAAh"⟩,
  ⟨["2.1", "v21"],
    "IFsgBXavg"⟩,
  ⟨["3.0", "v30"],
    "P2j-nixD1kBxgqkC3ozgD0gjghghghg-gsgCigsgBqhijC8hE8gGoiDihlgvgBqkhth9j6B1BwBOxhhxj3hohg" ++
    "imjgklhghnyiL1gBrg3inghihuigBwBhhkhhhmjjm5NmmhB-hghjimhghjiBmhghji-hghjimhghjimhmh2h-h" ++
    "ghjimhBmhym7BjC0sT1p8jCwEvC8jp2uhpmC3oBpBclg4lC_iByhC1hCogDnoItgD5gh9EqhOpnBhgC2hMuH_B" ++
    "Mg5hC4sG16rB8ijgLh3SoGN1USqBEsjxivhrhihgVS2gBG7i"⟩,
  ⟨["3.1", "v31"],
    "f0hBeO6_BIw-hjs6F1BliBlBSdyH1qBmjFzRiC0hCmhhigihijhrhghjhhhCghjinhmh7hjhkhgjmhKxkJhkBx" ++
    "KAgBJW2UJpQ9WBPjg-C_"⟩,
  ⟨["3.2", "v32"],
    "RggJugzsDoh8gEzhB5hihihBxvK-hKhgCKlhBQnshmr2pzsshihhCGzgmkkgnktgB-hBymCyuForHytD8g-BzI" ++
    "8zE3pC4n2hC6ripG-tC67kvIgP_BJ7iC3hohC-gHwvCxuCxucPihwgsgjgVLqB6cxgjvB1hBsgHrh"⟩,
  ⟨["4.0", "v40"],
    "RhgyiD3hB_wCwnliE3kQkjpoCgiE1hvgBti9iN0gF4gCjghgEogC0itgCjgB7gEhnGhhCY_gypIm8jrkrkgjBp" ++
    "ikDr_YgDrXnhHmgUzhJugI0hD0nuhBC-tBYvhBxgBrhCujFnjDjh_gGOgB_BLf9gCphN3rh5hyhhhuitBiD6li" ++
    "kBsjoSg9hgEmhBmCvipa2lighBrhhjgigBSWgC2LqgYLB-Hv"⟩,
  ⟨["4.1", "v41"],
    "R3qI2kE_jH2hFqgBiiCjgygB6lHx9QvgCwgPngBvgfphJnhhgIqgB_gB_gBng_g_g_gvgBng3h_5BPmBpm5mpk" ++
    "hBg7ihasC3UxhhmBxk9jB1gCwgvgUkqR8gDlhyqlvIumanlHsBuhBuBhDquBsqB1pgw2pmhmhmhmhmhmhmhmBh" ++
    "3khdivFugbJn1Bak2HpBrUSkDpZ2pZmCqQ1BjktBRqjhhlnhih6kikoooBRdnClBC-h"⟩,
  ⟨["5.0", "v50"],
    "SitJriKxgBqlwjFmgQlB6MghhhbihthDQtCrkBsSnmBzhXsjC9hB1gS3rWqgI0japmljJ8snjeU_jlhI-B3YEo" ++
    "5lgFXgbuExDitjBLXsxBC4h"⟩,
  ⟨["5.1", "v51"],
    "bwjihC3gF3gEsvHikrkBgkJuxPxhG-gBjgGug9hDsgDsg6hoh0nF9gmg9hsljmPrhDhgjiCtglgignikl6B_kh" ++
    "CAqgW1BqjrCmB3jujByKr7F1jC6lLkgErgC-gB1jBI0g1pjjIog_jZrkkBojkI4ihiklLi_4jiyX8gFizbO4nB" ++
    "J8Jr0_ixo7EjkiDqDukEgCkprBmCzrgFgB2ptipijUekibprB0BtEi8jBwBSv5lgBRfpgHW2BrkDj"⟩,
  ⟨["5.2", "v52"],
    "BJkhW6BtiuGhgCtgmgBjhEggBO5jGhjF8kCkkCylQggT2oRwClF0hBugClB-h8iqmpmtRiBiIqgV4iE3iB2gS-" ++
    "gV1h9ikphyhgk3C3gf9kI2gthDrmJ_gBAyrbL0nBIkBvNgC3J4pFm7Dk8jCthqkhEg7kCi4kHgBtipKd22kBwI" ++
    "TviDOy1hoF6hKk_EgB1j8i6lnEgCoQ3-QhChHZ-BBuBPGxql-igrghgigjgjkogng5ghhigqjigDvgvBhuoBNF" ++
    "3EB0"⟩,
  ⟨["6.0", "v60"],
    "BJmhH4gB-gPg7igG7hzgmh7kP6lNxgwgzgR9jCphcihCDhBzojP8gU4n8gZvqW6gzghj9gkh8gBjghgkiphB0i" ++
    "4guguhBNggugBB4idFlhJrhhhupCwgYmlililpmhmUEjvFB-Ctk9VcwR4ROnhQE-uitiuhuCwghqhghhhihiln" ++
    "hmhpmohgihhpkhhpCr5hhBvo1hFuBgvlhCljzsBkhk1wvB-hghF1hjjB9y3Ezkhvhihghghghihlijhgijhrkq" ++
    "BwClB6DzBPesG9"⟩,
  ⟨["6.1", "v61"],
    "BMvgD0gU7ghqB36PxgfthPnglgBviCVrislIgnBrjCW0ghgBJkhBzglgB4hGqpcMwgBVnnBjgHyh2gCthXm2TZ" ++
    "3hDawB3mhBYw4npmB0htB8ConpBFmB3opWB2CkrBuwwfTgjh6hhhgighphjhghgmgkghghghihhhgighghghgh" ++
    "ghhhgijhmhjhjhghphwlihkhwB0hT4he0jF8gwgjghghghgjgmhkghhkg"⟩,
  ⟨["6.2", "v62"],
    "IF6g"⟩,
  ⟨["6.3", "v63"],
    "BQ8gGSpj"⟩,
  ⟨["7.0", "v70"],
    "b_gNonC9hD2gU7grlCsgD4gngT_gBzgCsgD_gHkpCIhnRkhMxuR5hHtuWliZ2mYlgBCsiq5i_iBhjrhnTqmeC1" ++
    "lH2rriihClgPo-D9jFwBvkhUWhma9hzgJ_7BjgBwBqMlBnoBzrgEwJ2p1qnH4B-ooOw_BgBmkrEpxnjsmBGvgG" ++
    "wBmC2gsgmzrxhBqDyB6lpnihnihi1hmhhhkioihiipglmimjkIrCnopFmB1ixB2CkrpSmCysgOgB4CD2BpGqrl" ++
    "gROr-hpkhDg9ilqClqphmh0lyUDwDqlsjonpinKa8GkivBfogBg11hQ0rpgCmg2rBlgljlrxmCnghgF2gkhB_h" ++
    "km9xhBohC1CmhtBvCmpwsjjEsC0BrrkB3opmBno9"⟩,
  ⟨["8.0", "v80"],
    "CFzhBugQ1gLggIkgBU1gilDGggGrhCTgjce9oBWogHwgBilKkhTijsCvUTuhCVwyhhlkF8hiviBtUgBytBynlB" ++
    "GpjukFgmhghjhuhqC2gCvgT5zJi5jukvDC5gHmGjHV8SmBCc3qBQ3UrvkhuGD9iCuhCvkBknH_gCrkHzhErgR_" ++
    "oDnkB7gBPS_FUh"⟩,
  ⟨["9.0", "v90"],
    "CF2n2uc9gGugkihm3iDYnoLygBP_jCSkheLpgI2gWGnhZhBjkBjDKigOhC5hghgQisBMzohBshtq8j_i1htUZp" ++
    "g_FfszXyVItmhwimhhhkCG1CqlpkhCB7xEugZ-gBpgJshBhiRilhnogirhrkuBms"⟩,
  ⟨["10.0", "v100"],
    "CDgqMxhH8lQggB6hDd6gH-jWlgZ_gBeygTykXkgbVn0YaiiFWwCnoBzi2hkS9mhhhBrjghhhoopUUngQBgI8Cx" ++
    "MrPbklBDthBihQnrzgonhh5gysBmlB42BVGpHJw"⟩,
  ⟨["11.0", "v110"],
    "BLggBngDmgQtiGzgJqgD3gMtgD_gCfzgBA3BqiiDX6i24kuSrkXggbV7kBd_gohKkhYJ0hygV3BnopOmBnoBpL" ++
    "zgD2iP0gJigV7gHlB7ThgWilhhhBkhhhlnpJ24TanC6GKykSXuzD-mGH4CjBD6gBOpgG7jL0i8kijjghj4qtpn" ++
    "hBk4Dgt"⟩,
  ⟨["12.0", "v120"],
    "DD3gQugigighlkgngnhigtgDR_gDWugB1gSvgeLqlikc_hZD42BDogS4gXnniBtiqE_hBJ6BxtgFBwoOYslkgB" ++
    "voC6hGAulKK4ixjLc4BsjtipkhLwB5lgBSrgd1B8BBugBLogBkgHlrJhiBvgBxgpgBpljhqljniiBwCz8jkili" ++
    "tl"⟩,
  ⟨["12.1", "v121"],
    "MX_g"⟩,
  ⟨["13.0", "v130"],
    "CF-pUtgNugD8gDJ9hEG2gV4ibokGf2pURwsBeqjBqhB1gZ7jVRwgDHjBphiihH-7L7gEmhUqglhBE-miginhhh" ++
    "9hhirppBS2gUBzgrhGYhPiBqoZAkiC9iB9gBJohBjhNzhC6gDlgkhBqhmi9gFogujvynmpitmBpEyhB2BlpBKW" ++
    "9mWJiEaq"⟩,
  ⟨["14.0", "v140"],
    "BQ9gSy-hhmn1gyqbpgBggD_gCRvgngpgHvgVxtD9gBwhT7gWlgCbugBvgPzqcM_iBeghuhhghk4iUetgL9vD_g" ++
    "BuhBbwqhuhmhhhqhuhmhhOjlhBphoBd15HmlCsgBP2gEmmbpvFGwDiOT9CuhpRJmjhmhhJgjHO9Bti2pDzRlhD" ++
    "I1-bx-BJxmhjhhhuDW-iIwgMogCygFuhBsjqjoiximnomBKfnhEC1j"⟩,
  ⟨["15.0", "v150"],
    "DHzgO6gCABuiZ_iCF-pf2whBoj7FG1gp8fG8gBigILqzDCxlIlB9BhgBCgBpEPigE3ikkC5gU7ivhBkirihguh" ++
    "qhsguhBPCggXA2EC_"⟩,
  ⟨["15.1", "v151"],
    "Lf8jPvgFOQgTt"⟩,
  ⟨["16.0", "v160"],
    "CE3gEV2hBvgIphBc8iDN6hdPlisiXPjBzBasBlj8ohJyiB3gBEjphgighBlhphgighjhphhohXtzBG8Bhupbgg" ++
    "FIlDc6HIlB5DAmB5HclgPYgH5mNzFY8BqkgEVypkhOnglgBugng1gigpgHhBk"⟩]

/-- The code points assigned up to and including a version. -/
def assignedBy (name : String) : Option CodeSet :=
  match ageTable.findIdx? fun e => e.names.contains name with
  | none => none
  | some i => some (CodeSet.ofRanges ((ageTable.take (i + 1)).flatMap fun e =>
      (CodeSet.decode e.text).ranges))

end ToolGate.Unicode
