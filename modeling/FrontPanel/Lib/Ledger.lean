import FrontPanel.Lib.Prog
import Mathlib.Logic.Function.Basic

/-!
# A ledger of what is held

A driver obtains things from the kernel and gives them back: memory, queues, files, devices, interrupts. Some are only obtained, and some are registered after that, and each of the two states has a call of its own that ends it. The ledger says of every resource how it is held, and a call matches the ledger where the resource is as the call needs it: what is obtained was absent, so that nothing held is lost, and what is given back is held in the way the call gives back.

A routine is run against the ledger with its answers chosen beforehand. `Keeps` says that all its calls match and that what it returns and the ledger it leaves are as wanted; it is defined along the routine, so a routine is checked call by call, and `keeps_iff` takes the result back to the list of its calls.
-/

namespace FrontPanel

inductive Held
  | absent
  | obtained
  | registered
  deriving DecidableEq

def Held.obtainedIf (there : Bool) : Held := if there then .obtained else .absent

inductive Request (R : Type)
  | obtain (r : R)
  | register (r : R)
  | unregister (r : R)
  | free (r : R)

/-- The calls that can fail answer 0 or an error. -/
abbrev Kernel (R : Type) : Interface where
  Op := Request R
  Answer := fun op =>
    match op with
    | .obtain _ => Int
    | .register _ => Int
    | .unregister _ => Unit
    | .free _ => Unit

/-- The answers of the kernel, chosen beforehand. -/
structure Choice (R : Type) where
  obtain : R → Int
  register : R → Int

abbrev Ledger (R : Type) : Type := R → Held

section Calls

variable {R : Type}

def Choice.respond (choice : Choice R) : (op : Request R) → (Kernel R).Answer op
  | .obtain r => choice.obtain r
  | .register r => choice.register r
  | .unregister _ => ()
  | .free _ => ()

def Request.obtaining (r : R) : Prog (Kernel R) Int := .access (Kernel R) (.obtain r)
def Request.registering (r : R) : Prog (Kernel R) Int := .access (Kernel R) (.register r)
def Request.unregistering (r : R) : Prog (Kernel R) Unit := .access (Kernel R) (.unregister r)
def Request.freeing (r : R) : Prog (Kernel R) Unit := .access (Kernel R) (.free r)

/-- Give back what may not be there. -/
def Request.freeingIf (r : R) (there : Bool) : Prog (Kernel R) Unit :=
  if there then Request.freeing r else .ret ()

/-- Obtain one after the other, up to the first that fails. -/
def Request.obtainingAll : List R → Prog (Kernel R) Int
  | [] => .ret 0
  | r :: rs => do
      let ret ← Request.obtaining r
      if ret ≠ 0 then return ret
      Request.obtainingAll rs

def Request.freeingAll : List R → Prog (Kernel R) Unit
  | [] => .ret ()
  | r :: rs => do
      Request.freeing r
      Request.freeingAll rs

theorem Request.freeingAll_append (rs rs' : List R) :
    Request.freeingAll (rs ++ rs') = Request.freeingAll rs >>= fun _ => Request.freeingAll rs' := by
  induction rs with
  | nil => rfl
  | cons r rs ih =>
      rw [List.cons_append, Request.freeingAll, ih]
      rfl

namespace Ledger

/-- Nothing is held. -/
def Clear (ledger : Ledger R) : Prop := ∀ r, ledger r = .absent

def Matches (ledger : Ledger R) : Event (Kernel R) → Prop
  | ⟨.obtain r, ret⟩ => ret = (0 : Int) → ledger r = .absent
  | ⟨.register r, _⟩ => ledger r = .obtained
  | ⟨.unregister r, _⟩ => ledger r = .registered
  | ⟨.free r, _⟩ => ledger r = .obtained

variable [DecidableEq R]

/-- The ledger with `rs` held as `held`. -/
def mark (ledger : Ledger R) (rs : List R) (held : Held) : Ledger R :=
  fun r => if r ∈ rs then held else ledger r

theorem mark_nil (ledger : Ledger R) (held : Held) : ledger.mark [] held = ledger := by
  funext r
  exact if_neg List.not_mem_nil

theorem mark_cons (ledger : Ledger R) (r : R) (rs : List R) (held : Held) :
    ledger.mark (r :: rs) held = mark (Function.update ledger r held) rs held := by
  funext other
  by_cases hmem : other ∈ rs
  · simp [mark, hmem]
  · by_cases hsame : other = r
    · simp [mark, hsame]
    · simp [mark, hmem, hsame]

def call (ledger : Ledger R) : Event (Kernel R) → Ledger R
  | ⟨.obtain r, ret⟩ => if ret = (0 : Int) then Function.update ledger r .obtained else ledger
  | ⟨.register r, ret⟩ => if ret = (0 : Int) then Function.update ledger r .registered else ledger
  | ⟨.unregister r, _⟩ => Function.update ledger r .absent
  | ⟨.free r, _⟩ => Function.update ledger r .absent

def after (ledger : Ledger R) (events : List (Event (Kernel R))) : Ledger R :=
  events.foldl call ledger

def Accepts : Ledger R → List (Event (Kernel R)) → Prop
  | _, [] => True
  | ledger, event :: events => ledger.Matches event ∧ (ledger.call event).Accepts events

theorem after_append (ledger : Ledger R) (past later : List (Event (Kernel R))) :
    ledger.after (past ++ later) = (ledger.after past).after later := List.foldl_append

theorem accepts_append {ledger : Ledger R} {past later : List (Event (Kernel R))} :
    ledger.Accepts (past ++ later) ↔ ledger.Accepts past ∧ (ledger.after past).Accepts later := by
  induction past generalizing ledger with
  | nil => exact (and_iff_right trivial).symm
  | cons event past ih => exact (and_congr_right fun _ => ih).trans and_assoc.symm

end Ledger

/-! ### Routines -/

namespace Prog

variable [DecidableEq R] {Value Result : Type}

/-- Answered by `choice`, every call of the routine matches the ledger it finds, and `post` holds of what it returns and of the ledger it leaves. -/
def Keeps (choice : Choice R) (post : Value → Ledger R → Prop) :
    Prog (Kernel R) Value → Ledger R → Prop
  | .ret value, ledger => post value ledger
  | .call op next, ledger =>
      ledger.Matches ⟨op, choice.respond op⟩ ∧
        (next (choice.respond op)).Keeps choice post (ledger.call ⟨op, choice.respond op⟩)

variable {choice : Choice R} {post : Value → Ledger R → Prop} {ledger : Ledger R} {r : R}

theorem keeps_iff {program : Prog (Kernel R) Value} : program.Keeps choice post ledger ↔
    ledger.Accepts (program.answered choice.respond).1 ∧
      post (program.answered choice.respond).2
        (ledger.after (program.answered choice.respond).1) := by
  induction program generalizing ledger with
  | ret value => exact ⟨fun hpost => ⟨trivial, hpost⟩, fun hgiven => hgiven.2⟩
  | call op next ih =>
      rw [Keeps, ih, ← and_assoc]
      rfl

/-- The rule of consequence. -/
theorem Keeps.weaken {program : Prog (Kernel R) Value} {weak : Value → Ledger R → Prop}
    (hkeeps : program.Keeps choice post ledger)
    (hweaken : ∀ value left, post value left → weak value left) :
    program.Keeps choice weak ledger := by
  induction program generalizing ledger with
  | ret value => exact hweaken _ _ hkeeps
  | call op next ih => exact ⟨hkeeps.1, ih _ hkeeps.2⟩

theorem keeps_bind {program : Prog (Kernel R) Value} {rest : Value → Prog (Kernel R) Result}
    {post : Result → Ledger R → Prop} : (program >>= rest).Keeps choice post ledger ↔
      program.Keeps choice (fun value => (rest value).Keeps choice post) ledger := by
  induction program generalizing ledger with
  | ret value => exact Iff.rfl
  | call op next ih => exact and_congr_right fun _ => ih _

variable {post : Int → Ledger R → Prop} in
theorem keeps_optional (habsent : ledger r = .absent) :
    (Request.obtaining r).Keeps choice post ledger ↔
      post (choice.obtain r) (Function.update ledger r (.obtainedIf (choice.obtain r = 0))) := by
  show ((choice.obtain r = 0 → ledger r = .absent) ∧ post (choice.obtain r)
    (if choice.obtain r = 0 then _ else _)) ↔ _
  rw [and_iff_right fun _ => habsent]
  by_cases hret : choice.obtain r = 0
  · rw [if_pos hret, decide_eq_true hret]
    rfl
  · rw [if_neg hret, decide_eq_false hret]
    show _ ↔ post _ (Function.update ledger r .absent)
    rw [← habsent, Function.update_eq_self]

section Branches

variable {failed : Int → Prog (Kernel R) Value} {got : Prog (Kernel R) Value}

/-- A call that may fail, followed by what is done on an error and what is done without one. -/
theorem keeps_obtained (hret : choice.obtain r = 0) (habsent : ledger r = .absent) :
    (Request.obtaining r >>= fun ret => if ret ≠ 0 then failed ret else got).Keeps choice post
        ledger ↔ got.Keeps choice post (Function.update ledger r .obtained) := by
  show ((choice.obtain r = 0 → ledger r = .absent) ∧
    Keeps choice post (if choice.obtain r ≠ 0 then _ else got)
      (if choice.obtain r = 0 then _ else _)) ↔ _
  rw [if_neg (not_not.mpr hret), if_pos hret]
  exact and_iff_right fun _ => habsent

theorem keeps_not_obtained (hret : choice.obtain r ≠ 0) :
    (Request.obtaining r >>= fun ret => if ret ≠ 0 then failed ret else got).Keeps choice post
        ledger ↔ (failed (choice.obtain r)).Keeps choice post ledger := by
  show ((choice.obtain r = 0 → ledger r = .absent) ∧
    Keeps choice post (if choice.obtain r ≠ 0 then _ else got)
      (if choice.obtain r = 0 then _ else _)) ↔ _
  rw [if_pos hret, if_neg hret]
  exact and_iff_right fun hzero => absurd hzero hret

theorem keeps_registered (hret : choice.register r = 0) (hheld : ledger r = .obtained) :
    (Request.registering r >>= fun ret => if ret ≠ 0 then failed ret else got).Keeps choice post
        ledger ↔ got.Keeps choice post (Function.update ledger r .registered) := by
  show (ledger r = .obtained ∧ Keeps choice post (if choice.register r ≠ 0 then _ else got)
    (if choice.register r = 0 then _ else _)) ↔ _
  rw [if_neg (not_not.mpr hret), if_pos hret]
  exact and_iff_right hheld

theorem keeps_not_registered (hret : choice.register r ≠ 0) :
    (Request.registering r >>= fun ret => if ret ≠ 0 then failed ret else got).Keeps choice post
        ledger ↔
      ledger r = .obtained ∧ (failed (choice.register r)).Keeps choice post ledger := by
  show (ledger r = .obtained ∧ Keeps choice post (if choice.register r ≠ 0 then _ else got)
    (if choice.register r = 0 then _ else _)) ↔ _
  rw [if_pos hret, if_neg hret]
  rfl

end Branches

section Releases

variable {there : Bool} {post : Unit → Ledger R → Prop}

theorem keeps_unregister : (Request.unregistering r).Keeps choice post ledger ↔
    ledger r = .registered ∧ post () (Function.update ledger r .absent) :=
  Iff.rfl

theorem keeps_free : (Request.freeing r).Keeps choice post ledger ↔
    ledger r = .obtained ∧ post () (Function.update ledger r .absent) :=
  Iff.rfl

theorem keeps_freeIf (hheld : ledger r = .obtainedIf there) :
    (Request.freeingIf r there).Keeps choice post ledger ↔
      post () (Function.update ledger r .absent) := by
  cases there with
  | true => exact keeps_free.trans (and_iff_right hheld)
  | false =>
      have hsame : Function.update ledger r .absent = ledger := by
        rw [← show ledger r = .absent from hheld, Function.update_eq_self]
      rw [hsame]
      rfl

theorem Keeps.freeIf (hkeeps : (Request.freeingIf r there).Keeps choice post ledger) :
    ∃ left, post () left ∧ ∀ other ≠ r, left other = ledger other := by
  cases there with
  | true => exact ⟨_, hkeeps.2, fun other hother => Function.update_of_ne hother _ _⟩
  | false => exact ⟨ledger, hkeeps, fun _ _ => rfl⟩

end Releases

section Lists

variable {rs : List R}

theorem keeps_obtainingAll {post : Int → Ledger R → Prop} (hall : ∀ r ∈ rs, choice.obtain r = 0)
    (habsent : ∀ r ∈ rs, ledger r = .absent) (hnodup : rs.Nodup) :
    (Request.obtainingAll rs).Keeps choice post ledger ↔ post 0 (ledger.mark rs .obtained) := by
  induction rs generalizing ledger with
  | nil =>
      rw [Ledger.mark_nil]
      rfl
  | cons r rs ih =>
      obtain ⟨hret, hall⟩ := List.forall_mem_cons.mp hall
      obtain ⟨hnone, habsent⟩ := List.forall_mem_cons.mp habsent
      obtain ⟨hnew, hnodup⟩ := List.nodup_cons.mp hnodup
      rw [Request.obtainingAll, keeps_obtained hret hnone, Ledger.mark_cons]
      refine ih hall (fun other hmem => ?_) hnodup
      rw [Function.update_of_ne (ne_of_mem_of_not_mem hmem hnew)]
      exact habsent other hmem

theorem Keeps.obtainingAll {post : Int → Ledger R → Prop} (hsome : ∃ r ∈ rs, choice.obtain r ≠ 0)
    (hkeeps : (Request.obtainingAll rs).Keeps choice post ledger) :
    ∃ ret left, ret ≠ 0 ∧ post ret left ∧ ∀ r, r ∉ rs → left r = ledger r := by
  induction rs generalizing ledger with
  | nil =>
      obtain ⟨r, hmem, -⟩ := hsome
      cases hmem
  | cons r rs ih =>
      rw [Request.obtainingAll] at hkeeps
      by_cases hret : choice.obtain r = 0
      · obtain ⟨hnone, hkeeps⟩ := hkeeps
        have hupdate : ledger.call ⟨.obtain r, choice.respond (.obtain r)⟩ =
          Function.update ledger r .obtained := if_pos hret
        rw [hupdate] at hkeeps
        have hstep : Keeps choice post (if choice.obtain r ≠ 0 then pure (choice.obtain r)
          else Request.obtainingAll rs) (Function.update ledger r .obtained) := hkeeps
        rw [if_neg (not_not.mpr hret)] at hstep
        have hrest : ∃ r ∈ rs, choice.obtain r ≠ 0 := by
          obtain ⟨other, hmem, hfails⟩ := hsome
          obtain rfl | hmem := List.mem_cons.mp hmem
          · exact absurd hret hfails
          · exact ⟨other, hmem, hfails⟩
        obtain ⟨ret, left, hret, hpost, hframe⟩ := ih hrest hstep
        refine ⟨ret, left, hret, hpost, fun other hother => ?_⟩
        rw [List.mem_cons, not_or] at hother
        rw [hframe other hother.2, Function.update_of_ne hother.1]
      · exact ⟨choice.obtain r, ledger, hret, (keeps_not_obtained hret).mp hkeeps, fun _ _ => rfl⟩

theorem keeps_freeingAll {post : Unit → Ledger R → Prop} (hnodup : rs.Nodup) :
    (Request.freeingAll rs).Keeps choice post ledger ↔
      (∀ r ∈ rs, ledger r = .obtained) ∧ post () (ledger.mark rs .absent) := by
  induction rs generalizing ledger with
  | nil =>
      rw [Ledger.mark_nil]
      exact (and_iff_right fun r hmem => absurd hmem List.not_mem_nil).symm
  | cons r rs ih =>
      obtain ⟨hnew, hnodup⟩ := List.nodup_cons.mp hnodup
      have hothers : (∀ other ∈ rs, Function.update ledger r .absent other = .obtained) ↔
          ∀ other ∈ rs, ledger other = .obtained := by
        refine forall₂_congr fun other hmem => ?_
        rw [Function.update_of_ne (ne_of_mem_of_not_mem hmem hnew)]
      rw [Request.freeingAll, keeps_bind, keeps_free, ih hnodup, hothers, Ledger.mark_cons,
        List.forall_mem_cons, and_assoc]

end Lists

/-! ### Rounds -/

/-- The routine once with each of the choices: all its calls match, and nothing is held at the end. -/
def Rounds (program : Prog (Kernel R) Unit) : List (Choice R) → Ledger R → Prop
  | [], ledger => ledger.Clear
  | choice :: choices, ledger =>
      program.Keeps choice (fun _ left => program.Rounds choices left) ledger

/-- A routine that leaves the ledger as it finds it or does not match it. -/
theorem rounds_iff {program : Prog (Kernel R) Unit} {good : Choice R → Prop}
    (hround : ∀ (choice : Choice R) (post : Unit → Ledger R → Prop),
      program.Keeps choice post ledger ↔ good choice ∧ post () ledger)
    (hclear : ledger.Clear) (choices : List (Choice R)) :
    program.Rounds choices ledger ↔ ∀ choice ∈ choices, good choice := by
  induction choices with
  | nil => exact iff_of_true hclear fun choice hmem => absurd hmem List.not_mem_nil
  | cons choice choices ih => rw [Rounds, hround, ih, List.forall_mem_cons]

end Prog

end Calls

end FrontPanel
