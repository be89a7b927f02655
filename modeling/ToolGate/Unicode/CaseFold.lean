/-
Simple case folding (Unicode 16.0): which characters differ in case alone.

* `caseOrbits` — the classes of code points with the same simple folding, each ascending.
* `CodeSet.foldCase` — a set together with everything that differs from a member in case alone.
-/
import ToolGate.Unicode.CodeSet

namespace ToolGate.Unicode

/-- The classes with more than one member: how far the first member lies after that of the class
before, how many members follow the second, and the steps from member to member. -/
def caseOrbitText : String :=
  "ChgBghgBghgBghgBghgBghgBghgBghgBghgBghgBghhBgIF_hgBghgBghgBghgBghgBghgBghgBghhBgIshgBghg" ++
  "BghgBghgBghgBghgBghgBgC7hXnBgrgBghgBghgBghgBghgBghhBgICmhgBghgBghgBghgBghgBghgBghgBghgBg" ++
  "hgBghgBghgBghgBghgBghgBghgBghgBghgBgigBghgBghgBghgBghgBghgBghgBghgHN_BggD5hghighighighig" ++
  "highighighighighighighighighighighighighighighighighighighkghighighjghighighighighighigh" ++
  "ighjghighighighighighighighighighighighighighighighighighighighighighighjghighighjgGjhgG" ++
  "yhghighigGuhghigGthgGthghjgCvhgGqhgGrhghigGthgGvhgDhhgGzhgGxhghigFjhgBJShhgGzhgG1hgEihgG" ++
  "2hghighighigG6hghigG6jghigG6hghigG5hgG5hghighigG7hghkghjgB4lhhhjhhhjhhhjghighighighighig" ++
  "highighjghighighighighighighighighjhhhjghkghighighighighighighighighighighighighighighig" ++
  "highighighighkghighighighighighighighighogKRrhghjgKRohgKR_hgKR_hghjgClhgCnhghighighighig" ++
  "higKQ_hgKQ8hgKQ-qgBJKvlgBJKrjgBJLnhgBJJohgBJKkkgBJKkhgKP3hgBJKhlgKP9sgKPnlgBJKjlgBJJq2gB" ++
  "JI1hgBJIyFniC0BgHAlBrghighkghlgEihgEihgEiigD0ngBmigBlhgBlhgBligCgigB_hgB_hgHCjhgBghhBg-h" ++
  "gBghgBghhBgCghgBghgBghiBg5BjihBgB2hgBgigBghgBghgBghhBg2hhBgBwih_hhgBghgBghhBgvhgBghgBghh" ++
  "BgHK9hgBghgBglgHBz_gopghighighighighighighighighighighighkgnlghjghmgCwhgCwhgCwhgCwhgCwhg" ++
  "CwhgCwhgCwhgCwhgCwhgCwhgCwhgCwhgCwhgCwhgCwhgBghgBghhBgGCuhgBghhBgGCthgBghgBghgBghgBghgBg" ++
  "hgBghgBghgBghgBghhBgGCkhgBghgBghhBgGCihiBgGCihhgBghgBghgBghgBghgBghgBghgBghhBgGB8hgBghgB" ++
  "ghgBghgBghgBgBxghihhGBkighighighighighighighighighighighighighighighqghighighighighighig" ++
  "highighighighighighighighighighighighighighighighighighighighigvhghighighighighighighjgh" ++
  "ighighighighighighighighighighighighighighighighighighighighighighighighighighighighighi" ++
  "ghighighighighighighighighighighighighighighighighighjgBwhgBwhgBwhgBwhgBwhgBwhgBwhgBwhgB" ++
  "whgBwhgBwhgBwhgBwhgBwhgBwhgBwhgBwhgBwhgBwhgBwhgBwhgBwhgBwhgBwhgBwhgBwhgBwhgBwhgBwhgBwhgB" ++
  "whgBwhgBwhgBwhgBwhgBwhgBwhgBwCaqgHDghgHDghgHDghgHDghgHDghgHDghgHDghgHDghgHDghgHDghgHDghg" ++
  "HDghgHDghgHDghgHDghgHDghgHDghgHDghgHDghgHDghgHDghgHDghgHDghgHDghgHDghgHDghgHDghgHDghgHDg" ++
  "hgHDghgHDghgHDghgHDghgHDghgHDghgHDghgHDghgHDgigHDgmgHDgjgCeghgCeghgCeghgCeghgCeghgCeghgC" ++
  "eghgCeghgCeghgCeghgCeghgCeghgCeghgCeghgCeghgCeghgCeghgCeghgCeghgCeghgCeghgCeghgCeghgCegh" ++
  "gCeghgCeghgCeghgCeghgCeghgCeghgCeghgCeghgCeghgCeghgCeghgCeghgCeghgCeghgCeghgCeghgCeghgCe" ++
  "ghgCegjgCeghgCeghgCegVhgBFewhgBFewhgBFewhgBFewhgBFewhgBFewhgBFewhgBFewhgBFewhgBFewhgBFew" ++
  "hgBFewhgBFewhgBFewhgBFewhgBFewhgBFewhgBFewhgBFewhgBFewhgBFewhgBFewhgBFewhgBFewhgBFewhgBF" ++
  "ewhgBFewhgBFewhgBFewhgBFewhgBFewhgBFewhgBFewhgBFewhgBFewhgBFewhgBFewhgBFewhgBFewhgBFewhg" ++
  "BFewhgBFewhgBFewhgBFewhgBFewhgBFewhgBFewhgBFewhgBFewhgBFewhgBFewhgBFewhgBFewhgBFewhgBFew" ++
  "hgBFewhgBFewhgBFewhgBFewhgBFewhgBFewhgBFewhgBFewhgBFewhgBFewhgBFewhgBFewhgBFewhgBFewhgBF" ++
  "ewhgBFewhgBFewhgBFewhgBFewhgBFewhgBFewhgBFewhgBFewhgBFewhgBFewhgohgohgohgohgohgoCEzhBCOi" ++
  "hhghHwgBCQkkgDXmxgBCR4Dyghighighighighighighighighighighighighighighighighighighighighig" ++
  "highighighighighighighighighighighighighighighighighighighighighighighighighighihhB6ighi" ++
  "ghighighighighighighighighighighighighighighighighighighighighighighighighsghighighighig" ++
  "highighighighighighighighighighighighighighighighighighighighighighighighighighighighigh" ++
  "ighighighighighighighighighighighighighighigohgohgohgohgohgohgohgopgohgohgohgohgohgorgoh" ++
  "gohgohgohgohgohgohgopgohgohgohgohgohgohgohgopgohgohgohgohgohgosgoigoigoigopgohgohgohgohg" ++
  "ohgohgohgopgCqhgCqhgC2hgC2hgC2hgC2hgDkhgDkhgEghgEghgDwhgDwhgD-hgD-jgohgohgohgohgohgohgoh" ++
  "gopgohgohgohgohgohgohgohgopgohgohgohgohgohgohgohgopgohgoigpwgptgohgovgohgokgnugpJ_g8Bugw" ++
  "hgwhgwhgwhgwhgwhgwhgwhgwhgwhgwhgwhgwhgwhgwhgw0ghZzg6hg6hg6hg6hg6hg6hg6hg6hg6hg6hg6hg6hg6" ++
  "hg6hg6hg6hg6hg6hg6hg6hg6hg6hg6hg6hg6hg6BZxgBwhgBwhgBwhgBwhgBwhgBwhgBwhgBwhgBwhgBwhgBwhgB" ++
  "whgBwhgBwhgBwhgBwhgBwhgBwhgBwhgBwhgBwhgBwhgBwhgBwhgBwhgBwhgBwhgBwhgBwhgBwhgBwhgBwhgBwhgB" ++
  "whgBwhgBwhgBwhgBwhgBwhgBwhgBwhgBwhgBwhgBwhgBwhgBwhgBwhgBwBxghnghighighnghjghrghighighigh" ++
  "ighighighighighighighighighighighighighighighighighighighighighighighighighighighighighi" ++
  "ghighighighighighighighighighighighighighighighighpghighlgheKughighighighighkghighighigh" ++
  "ighighighighighighighighighighighighigh0ghighighighighighighighighighighighighighEoghigh" ++
  "ighighighighighkghighighighighighighighighighighighighighighighighighighighighighighighi" ++
  "ghighighighighighighrghighjghighighighighlghlghighigBwighighighighighighighighighighrgdg" ++
  "hghighighighighighighighlghighjghkghmghighigh7ghUYwghBA8gBghgBghgBghgBghgBghgBghgBghgBgh" ++
  "gBghgBghgBghgBghgBghgBghgBghgBghgBghgBghgBghgBghgBghgBghgBghgBghgBghgBgBGmgBohgBohgBohgB" ++
  "ohgBohgBohgBohgBohgBohgBohgBohgBohgBohgBohgBohgBohgBohgBohgBohgBohgBohgBohgBohgBohgBohgB" ++
  "ohgBohgBohgBohgBohgBohgBohgBohgBohgBohgBohgBohgBohgBohgBoEpgBohgBohgBohgBohgBohgBohgBohg" ++
  "BohgBohgBohgBohgBohgBohgBohgBohgBohgBohgBohgBohgBohgBohgBohgBohgBohgBohgBohgBohgBohgBohg" ++
  "BohgBohgBohgBohgBohgBohgBoE9gBnhgBnhgBnhgBnhgBnhgBnhgBnhgBnhgBnhgBnhgBnigBnhgBnhgBnhgBnh" ++
  "gBnhgBnhgBnhgBnhgBnhgBnhgBnhgBnhgBnhgBnhgBnigBnhgBnhgBnhgBnhgBnhgBnhgBnigBnhgBnBXrgCghgC" ++
  "ghgCghgCghgCghgCghgCghgCghgCghgCghgCghgCghgCghgCghgCghgCghgCghgCghgCghgCghgCghgCghgCghgC" ++
  "ghgCghgCghgCghgCghgCghgCghgCghgCghgCghgCghgCghgCghgCghgCghgCghgCghgCghgCghgCghgCghgCghgC" ++
  "ghgCghgCghgCghgCghgCgE-gBghgBghgBghgBghgBghgBghgBghgBghgBghgBghgBghgBghgBghgBghgBghgBghg" ++
  "BghgBghgBghgBghgBghgBgCZ7gBghgBghgBghgBghgBghgBghgBghgBghgBghgBghgBghgBghgBghgBghgBghgBg" ++
  "hgBghgBghgBghgBghgBghgBghgBghgBghgBghgBghgBghgBghgBghgBghgBghgBgVMhgBghgBghgBghgBghgBghg" ++
  "BghgBghgBghgBghgBghgBghgBghgBghgBghgBghgBghgBghgBghgBghgBghgBghgBghgBghgBghgBghgBghgBghg" ++
  "BghgBghgBghgBghgBgeVhgBihgBihgBihgBihgBihgBihgBihgBihgBihgBihgBihgBihgBihgBihgBihgBihgBi" ++
  "hgBihgBihgBihgBihgBihgBihgBihgBihgBihgBihgBihgBihgBihgBihgBihgBihgBi"

/-- Take the members of one class: `count` steps from the code point `at`. -/
def takeOrbit (member : Nat) : Nat → List Nat → List Nat × List Nat
  | 0, rest => ([member], rest)
  | _ + 1, [] => ([member], [])
  | count + 1, step :: rest =>
    let (more, rest) := takeOrbit (member + step) count rest
    (member :: more, rest)

/-- The classes written in a list of table numbers; `fuel` bounds their count. -/
def orbitsFrom (first : Nat) : Nat → List Nat → List (List Nat)
  | fuel + 1, gap :: extra :: rest =>
    let (orbit, rest) := takeOrbit (first + gap) (extra + 1) rest
    orbit :: orbitsFrom (first + gap) fuel rest
  | _, _ => []

/-- Classes of code points that differ in case alone, each with more than one member. -/
def caseOrbits : List (List Nat) :=
  let ns := CodeSet.numbers caseOrbitText
  orbitsFrom 0 ns.length ns

/-- The set together with every code point that differs from a member in case alone. -/
def CodeSet.foldCase (s : CodeSet) : CodeSet :=
  CodeSet.ofRanges (s.ranges ++
    ((caseOrbits.filter fun o => o.any s.contains).flatMap fun o => o.map fun n => (n, n)))

/-- The set together with the other case of its ASCII letters. -/
def CodeSet.foldAsciiCase (s : CodeSet) : CodeSet :=
  CodeSet.ofRanges (s.ranges ++
    (CodeSet.clip (65, 90) s.ranges).map (fun r => (r.1 + 32, r.2 + 32)) ++
    (CodeSet.clip (97, 122) s.ranges).map (fun r => (r.1 - 32, r.2 - 32)))

end ToolGate.Unicode
