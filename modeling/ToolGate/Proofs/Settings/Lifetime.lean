/-
Requests live as long as the settings say, to the millisecond.

A lifetime is set in seconds and kept in milliseconds, no longer than the longest span that can be
told. That is cut short only for lifetimes that outlast the calendar, so that no request can notice.

* `Timestamp.InCalendar` — the moments whose year can be told; `InCalendar.bounds`, in milliseconds.
* `IsSpan`, `signed?`, `span?` — the spans that can be told, and the conversion step by step.
  `spanOfSeconds_eq`: that is the lifetime of the settings.
* `spanOfSeconds_lt_since_iff` — between moments of the calendar it makes no difference.
* `lifetimes_are_exact` — so what a sweep takes is told by exact numbers.
-/
import Mathlib
import ToolGate.Settings.Basic
import ToolGate.Proofs.Approval.Sweeping

namespace ToolGate

/-! ## The calendar -/

namespace Timestamp

/-- The year of the moment can be told. -/
def InCalendar (t : Timestamp) : Prop := -262143 ≤ t.date.year ∧ t.date.year ≤ 262142

instance (t : Timestamp) : Decidable t.InCalendar := inferInstanceAs (Decidable (_ ∧ _))

/-- The year that `dayOf` tells, up to its place in a cycle of 400 years. -/
theorem year_dayOf_bounds (days : Int) :
    400 * ((days + 719468) / 146097) ≤ (dayOf days).year ∧
      (dayOf days).year ≤ 400 * ((days + 719468) / 146097) + 401 := by
  simp only [dayOf]
  split <;> split <;> omega

theorem InCalendar.bounds {t : Timestamp} (h : t.InCalendar) :
    -10000000000000000 ≤ t.millis ∧ t.millis ≤ 10000000000000000 := by
  have hyear := year_dayOf_bounds (t.millis / millisPerDay)
  simp only [InCalendar, date] at h
  simp only [millisPerDay] at h hyear
  omega

end Timestamp

/-! ## Spans -/

namespace Settings

/-- A span in milliseconds can be told: it is no longer than `longestSpan`, either way. -/
def IsSpan (millis : Int) : Prop := -longestSpan ≤ millis ∧ millis ≤ longestSpan

instance (millis : Int) : Decidable (IsSpan millis) := inferInstanceAs (Decidable (_ ∧ _))

/-- A number as a signed one of 64 bits, if it is small enough. -/
def signed? (n : Nat) : Option Int := if n < Nat.pow 2 63 then some n else none

/-- A number of seconds in milliseconds, if that `IsSpan`. -/
def span? (seconds : Int) : Option Int :=
  if IsSpan (seconds * 1000) then some (seconds * 1000) else none

/-- The conversion of the settings takes each step if it can, and else ends in `longestSpan`. -/
theorem spanOfSeconds_eq (seconds : Nat) :
    spanOfSeconds seconds = ((signed? seconds).bind span?).getD longestSpan := by
  have hlongest : longestSpan = 9223372036854775807 := rfl
  have hword : Nat.pow 2 63 = 9223372036854775808 := by norm_num
  rw [spanOfSeconds, signed?]
  by_cases hsigned : seconds < Nat.pow 2 63
  · rw [if_pos hsigned, Option.bind_some, span?]
    by_cases hspan : IsSpan (seconds * 1000)
    · rw [if_pos hspan, Option.getD_some]
      exact min_eq_left hspan.2
    · rw [if_neg hspan, Option.getD_none]
      unfold IsSpan at hspan
      omega
  · rw [if_neg hsigned, Option.bind_none, Option.getD_none]
    omega

theorem isSpan_spanOfSeconds (seconds : Nat) : IsSpan (spanOfSeconds seconds) := by
  simp only [IsSpan, spanOfSeconds, longestSpan]
  omega

theorem spanOfSeconds_mono {seconds more : Nat} (h : seconds ≤ more) :
    spanOfSeconds seconds ≤ spanOfSeconds more := by
  simp only [spanOfSeconds]
  omega

/-- Two moments `InCalendar` are less than `longestSpan` apart. -/
theorem since_lt_longestSpan {t u : Timestamp} (ht : t.InCalendar) (hu : u.InCalendar) :
    t.since u < longestSpan := by
  have ht' := ht.bounds
  have hu' := hu.bounds
  simp only [Timestamp.since, longestSpan]
  omega

theorem isSpan_since {t u : Timestamp} (ht : t.InCalendar) (hu : u.InCalendar) :
    IsSpan (t.since u) := by
  have hback := since_lt_longestSpan hu ht
  have hforth := since_lt_longestSpan ht hu
  simp only [IsSpan, Timestamp.since] at *
  omega

/-- Between moments `InCalendar`, it makes no difference that a span is cut short. -/
theorem spanOfSeconds_lt_since_iff (seconds : Nat) {t u : Timestamp} (ht : t.InCalendar)
    (hu : u.InCalendar) :
    spanOfSeconds seconds < t.since u ↔ 1000 * (seconds : Int) < t.millis - u.millis := by
  have hlt := since_lt_longestSpan ht hu
  simp only [spanOfSeconds, Timestamp.since] at *
  omega

/-! ## Lifetimes -/

open Approval

variable {s : Settings} {now : Timestamp} {r : Request}

/-- A pending request is `TooOld` when the lifetime has passed in exact numbers. -/
theorem tooOld_expiry_of_pending (hpending : r.status = .pending) (hnow : now.InCalendar)
    (hcreated : r.createdAt.InCalendar) :
    TooOld s.expiry now r ↔ 1000 * (s.lifetime : Int) < now.millis - r.createdAt.millis := by
  simp only [TooOld, hpending, true_and, ne_eq, not_true, false_and, or_false]
  exact spanOfSeconds_lt_since_iff s.lifetime hnow hcreated

/-- A settled request is `TooOld` when the lifetime has passed since its verdict, if it expires at
all. -/
theorem tooOld_expiry_of_settled (hsettled : r.status ≠ .pending) {t : Timestamp}
    (ht : r.resolvedAt = some t) (hnow : now.InCalendar) (hcalendar : t.InCalendar) :
    TooOld s.expiry now r ↔
      s.expireResolved = true ∧ 1000 * (s.lifetime : Int) < now.millis - t.millis := by
  simp only [TooOld, hsettled, false_and, false_or, ne_eq, not_false_eq_true, true_and, ht,
    Option.some.injEq, exists_eq_left']
  exact and_congr_right fun _ => spanOfSeconds_lt_since_iff s.lifetime hnow hcalendar

/-- What is `TooOld` for a longer lifetime is so for a shorter one. -/
theorem tooOld_of_shorter {more : Settings} (hlifetime : s.lifetime ≤ more.lifetime)
    (hexpires : s.expireResolved = more.expireResolved) (h : TooOld more.expiry now r) :
    TooOld s.expiry now r := by
  have hspan : s.expiry.lifetime ≤ more.expiry.lifetime := spanOfSeconds_mono hlifetime
  rcases h with ⟨hpending, hold⟩ | ⟨hsettled, hexpires', t, ht, hold⟩
  · exact .inl ⟨hpending, hspan.trans_lt hold⟩
  · exact .inr ⟨hsettled, hexpires.trans hexpires', t, ht, hspan.trans_lt hold⟩

/-- Lifetimes are exact for all moments `InCalendar`: `Ledger.sweep` takes a request just if more
than `1000 * s.lifetime` milliseconds have passed since it was raised, or since its verdict if such
requests expire. A lifetime that `span?` cannot tell is `longestSpan`, longer than the calendar; and
a longer lifetime takes no request that a shorter one leaves. -/
theorem lifetimes_are_exact (s : Settings) {l : Ledger} (h : l.Reachable) :
    (∀ now id r, l.get? id = some r → r.status = .pending → now.InCalendar →
      r.createdAt.InCalendar →
      ((l.sweep s.expiry now).2.get? id = none ↔
        1000 * (s.lifetime : Int) < now.millis - r.createdAt.millis)) ∧
    (∀ now id r t, l.get? id = some r → r.resolvedAt = some t → now.InCalendar → t.InCalendar →
      ((l.sweep s.expiry now).2.get? id = none ↔
        s.expireResolved = true ∧ 1000 * (s.lifetime : Int) < now.millis - t.millis)) ∧
    s.expiry.lifetime = ((signed? s.lifetime).bind span?).getD longestSpan ∧
    (s.expiry.lifetime ≠ 1000 * s.lifetime → s.expiry.lifetime = longestSpan ∧
      ∀ t u : Timestamp, t.InCalendar → u.InCalendar →
        t.since u < longestSpan ∧ t.since u < 1000 * s.lifetime) ∧
    IsSpan s.expiry.lifetime ∧
    (∀ t u : Timestamp, t.InCalendar → u.InCalendar → IsSpan (t.since u)) ∧
    ∀ more : Settings, s.lifetime ≤ more.lifetime → s.expireResolved = more.expireResolved →
      ∀ now id r, (l.sweep s.expiry now).2.get? id = some r →
        (l.sweep more.expiry now).2.get? id = some r := by
  have hl : l.Coherent := Ledger.coherent_of_reachable h
  refine ⟨?_, ?_, spanOfSeconds_eq _, ?_, isSpan_spanOfSeconds _, fun _ _ => isSpan_since, ?_⟩
  · intro now id r hr hpending hnow hcreated
    rw [hl.get?_sweep_eq_none hr, tooOld_expiry_of_pending hpending hnow hcreated]
  · intro now id r t hr ht hnow hcalendar
    have hsettled : r.status ≠ .pending := fun hpending => by
      rw [(hl.settled_iff hr).mpr hpending] at ht
      cases ht
    rw [hl.get?_sweep_eq_none hr, tooOld_expiry_of_settled hsettled ht hnow hcalendar]
  · intro hcut
    have hcases : s.expiry.lifetime = 1000 * s.lifetime ∨
        s.expiry.lifetime = longestSpan ∧ longestSpan ≤ 1000 * s.lifetime := by
      simp only [expiry, spanOfSeconds]
      omega
    obtain ⟨hlongest, hle⟩ := hcases.resolve_left hcut
    exact ⟨hlongest, fun t u ht hu =>
      ⟨since_lt_longestSpan ht hu, (since_lt_longestSpan ht hu).trans_le hle⟩⟩
  · intro more hlifetime hexpires now id r hleft
    rw [hl.get?_sweep_eq_some] at hleft ⊢
    exact ⟨hleft.1, fun hold => hleft.2 (tooOld_of_shorter hlifetime hexpires hold)⟩

/-- At the last moment `InCalendar`, a request from the first one is older than the number of full
seconds in between, but not by a second more, nor than `longestSpan`. -/
theorem lifetimes_are_exact_at_the_ends :
    let first : Timestamp := ⟨-8334601228800000⟩
    let last : Timestamp := ⟨8210266876799999⟩
    let l := Ledger.empty.create ⟨1⟩ first ⟨"exec", []⟩ "ask"
    first.InCalendar ∧ last.InCalendar ∧ ¬ (last.plus 1).InCalendar ∧
      (l.sweep { usual with lifetime := 16544868105599 }.expiry last).2.get? ⟨1⟩ = none ∧
      (l.sweep { usual with lifetime := 16544868105600 }.expiry last).2.get? ⟨1⟩ ≠ none ∧
      (l.sweep { usual with lifetime := 18446744073709551615 }.expiry last).2.get? ⟨1⟩ ≠ none ∧
      { usual with lifetime := 18446744073709551615 }.expiry.lifetime = longestSpan := by
  intro first last l
  have h : l.Reachable := .step .empty (.create ⟨1⟩ first ⟨"exec", []⟩ "ask") rfl
  have hfirst : first.InCalendar := by decide +kernel
  have hlast : last.InCalendar := by decide +kernel
  have hends := fun lifetime =>
    (lifetimes_are_exact { usual with lifetime } h).1 last ⟨1⟩ _ rfl rfl hlast hfirst
  obtain ⟨-, -, -, hcut, -⟩ := lifetimes_are_exact { usual with lifetime := 18446744073709551615 } h
  refine ⟨hfirst, hlast, by decide +kernel, (hends _).mpr (by decide), mt (hends _).mp (by decide),
    mt (hends _).mp (by decide), (hcut (by decide)).1⟩

end Settings

end ToolGate
