/-
The fingerprint tells the tool and the arguments up to the order of keys.

A tool's name may hold anything, colons and brackets and quotes too, and is joined to the arguments
as it is. Were one name longer than another one of the same fingerprint, the longer one's arguments
would be the end of the other one's, after a colon; no object ends so.

* `fingerprint_split` — calls of one fingerprint have one tool and arguments that are written alike.
* `fingerprint_eq_iff` — calls have one fingerprint if and only if they have one tool and arguments
  that are the same up to the order of keys.
-/
import Mathlib
import ToolGate.Approval.Fingerprint
import ToolGate.Proofs.Json.Brackets
import ToolGate.Proofs.Json.Readability

namespace ToolGate.Approval

open Json (Same WellFormed)

/-- The colon before a rendered `.object` is found at one place only. -/
theorem append_colon_object_inj {cs cs' : List Char} {fs fs' : Json.Fields}
    (h : cs ++ ':' :: Json.render (.object fs) = cs' ++ ':' :: Json.render (.object fs')) :
    cs = cs' ∧ Json.render (.object fs) = Json.render (.object fs') := by
  -- what one side has before its colon and the other one has not begins with the other one's colon
  rcases List.append_eq_append_iff.mp h with ⟨more, hcs, hrest⟩ | ⟨more, hcs, hrest⟩
  · cases more with
    | nil => exact ⟨by simpa using hcs.symm, (List.cons.inj hrest).2⟩
    | cons c more =>
      rw [List.cons_append, List.cons.injEq] at hrest
      exact absurd hrest.2 (Json.not_colon_object_suffix fs fs' more)
  · cases more with
    | nil => exact ⟨by simpa using hcs, (List.cons.inj hrest).2.symm⟩
    | cons c more =>
      rw [List.cons_append, List.cons.injEq] at hrest
      exact absurd hrest.2 (Json.not_colon_object_suffix fs' fs more)

theorem toList_fingerprint (tool : String) (args : Json.Fields) :
    (fingerprint tool args).toList =
      tool.toList ++ ':' :: (Json.canonical (.object args)).render := by
  simp [fingerprint, Json.toText]

/-- From `fingerprint`, the tool and the `canonical` text of the arguments can be read off. -/
theorem fingerprint_split {t t' : String} {p p' : Json.Fields}
    (h : fingerprint t p = fingerprint t' p') :
    t = t' ∧ (Json.canonical (.object p)).render = (Json.canonical (.object p')).render := by
  have hlist := congrArg String.toList h
  rw [toList_fingerprint, toList_fingerprint] at hlist
  obtain ⟨htool, hargs⟩ := append_colon_object_inj hlist
  exact ⟨String.toList_injective htool, hargs⟩

theorem same_of_fingerprint_eq {t t' : String} {p p' : Json.Fields} (hp : WellFormed (.object p))
    (hp' : WellFormed (.object p')) (h : fingerprint t p = fingerprint t' p') :
    t = t' ∧ Same (.object p) (.object p') := by
  obtain ⟨htool, hargs⟩ := fingerprint_split h
  have hcanonical := Json.render_injective hp.canonical hp'.canonical hargs
  exact ⟨htool, (Json.canonical_eq_iff hp hp').mp hcanonical⟩

theorem fingerprint_congr (t : String) {p p' : Json.Fields} (hp : WellFormed (.object p))
    (hp' : WellFormed (.object p')) (h : Same (.object p) (.object p')) :
    fingerprint t p = fingerprint t p' := by
  rw [fingerprint, fingerprint, Json.canonical_eq_of_same h hp hp']

/-- On `WellFormed` arguments, `fingerprint` tells the tool, and the arguments up to `Same`: the
order of keys at any depth. -/
theorem fingerprint_eq_iff {t t' : String} {p p' : Json.Fields} (hp : WellFormed (.object p))
    (hp' : WellFormed (.object p')) :
    fingerprint t p = fingerprint t' p' ↔ t = t' ∧ Same (.object p) (.object p') := by
  constructor
  · exact same_of_fingerprint_eq hp hp'
  · rintro ⟨rfl, hsame⟩
    exact fingerprint_congr t hp hp' hsame

/-- A tool whose name looks like a fingerprint, with two fields in either order. -/
theorem fingerprint_eq_iff_reordered :
    let p : Json.Fields := [("b", .text "\\\":\x7b"), ("a", .list [.number (.integer 1), .null])]
    let t := "exec:\x7b\"a\":[1,null]\x7d"
    WellFormed (.object p) ∧ WellFormed (.object p.reverse) ∧
      fingerprint t p = fingerprint t p.reverse ∧
      fingerprint t p ≠ fingerprint "exec" p.reverse := by
  intro p t
  have hvalue : ∀ k v, (k, v) ∈ p → WellFormed v := by
    simp only [p, List.mem_cons, Prod.mk.injEq, List.not_mem_nil, or_false]
    rintro k v (⟨-, rfl⟩ | ⟨-, rfl⟩)
    · exact .text _
    · refine .list fun x hx => ?_
      simp only [List.mem_cons, List.not_mem_nil, or_false] at hx
      rcases hx with rfl | rfl
      · exact .number trivial
      · exact .null
  have hp : WellFormed (.object p) := .object (by decide) hvalue
  have hp' : WellFormed (.object p.reverse) :=
    .object (by decide) fun k v hmem => hvalue k v (List.mem_reverse.mp hmem)
  refine ⟨hp, hp', (fingerprint_eq_iff hp hp').mpr ⟨rfl, ?_⟩, fun h => ?_⟩
  · exact Json.same_of_perm hp (List.reverse_perm p).symm
  · exact absurd ((fingerprint_eq_iff hp hp').mp h).1 (by decide)

end ToolGate.Approval
