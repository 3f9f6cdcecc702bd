import CommandShell.Proofs.Session.Directory
import Mathlib.Algebra.Group.Nat.Even

/-!
# Going back and forth

A call of the command that succeeds leaves the path of the directory it came from in one variable, and
that of the directory it came to in the other; all other variables stay as they are. A call that goes
back reads the first of them before it is set anew. So one call after the other leads from one directory
to the other, as long as both can be entered and nothing else changes the working directory or the
variable that is read.

## Main definitions
* `Disk.IsWayTo`: a path by which its directory can be entered.
* `CarriesOn`: what may happen between two calls.
* `GoesBack`: calls that go back, one after the other.

## Main results
* `changeDirectory_back`: one call that goes back.
* `GoesBack.atSide`: any number of them.
* `directory_variables_in_step`: a call that succeeds and those that go back after it.
-/

namespace CommandShell

open Builtin

/-! ## One call that goes back -/

/-- A directory can be entered by its path, which leads to no other directory. -/
structure Disk.IsWayTo (disk : Disk) (path : Bytes) : Prop where
  canEnter : disk.canEnter path
  leadsBack : disk.LeadsBack path

/-- The operand is one of those that go back. -/
def IsBackOperand (operand : Text) : Prop :=
  operand = backOperand ∨ operand = quietBackOperand

section

variable {s : Session} {operand : Text} {here there : Bytes}

/-- To go back is to enter the directory whose path is kept. -/
theorem arrival_of_back (hoperand : IsBackOperand operand)
    (hprevious : s.env.get? previousVariable = some there) (hthere : s.disk.IsWayTo there) :
    ∃ disk, arrival [operand] s = .ok disk ∧ disk.currentDirectory = .ok there := by
  obtain ⟨p, hp⟩ := Disk.canEnter_iff.mp hthere.canEnter
  have henter : s.disk.enter there = .ok { s.disk with cwd := p } := Disk.enter_eq_ok_iff.mpr ⟨p, hp, rfl⟩
  have hcurrent := hthere.leadsBack _ henter
  have hne : there ≠ [] := by
    rintro rfl
    obtain ⟨-, hpath⟩ := Disk.currentDirectory_eq_ok_iff.mp hcurrent
    have habsolute := isAbsolute_path p.place
    rw [hpath] at habsolute
    cases habsolute
  have htarget : nonEmpty (some there) = some there := by
    simp [nonEmpty, hne]
  refine ⟨_, ?_, hcurrent⟩
  have hback : operand = backOperand ∨ operand = quietBackOperand := hoperand
  rw [arrival, destination, if_pos hback, hprevious, htarget]
  exact mapError_eq_ok_iff.mpr henter

/-- **A call that goes back exchanges the two directories**, and shows the one it comes to if it is asked
to. -/
theorem changeDirectory_back (hoperand : IsBackOperand operand)
    (hhere : s.disk.currentDirectory = .ok here)
    (hprevious : s.env.get? previousVariable = some there) (hthere : s.disk.IsWayTo there)
    (htakes : s.out.TakesAll) :
    ∃ t, (changeDirectory [operand]).run s = (.ok (.status 0), t) ∧
      t.disk.currentDirectory = .ok there ∧
      t.env.get? previousVariable = some here ∧
      t.out.contents = s.out.contents ++ shownBy [operand] there := by
  obtain ⟨hisThere, rfl⟩ := Disk.currentDirectory_eq_ok_iff.mp hhere
  obtain ⟨disk, harrival, hcurrent⟩ := arrival_of_back hoperand hprevious hthere
  obtain ⟨-, rfl⟩ := Disk.currentDirectory_eq_ok_iff.mp hcurrent
  obtain ⟨out, hshow, hcontents⟩ :=
    run_showDirectory_of_takesAll (s := s.moved disk) htakes [operand] disk.cwd.place.path
  refine ⟨{ s.moved disk with out }, ?_, hcurrent, ?_, hcontents⟩
  · rw [changeDirectory_of_arrival hisThere harrival, hshow]
  · exact Environment.get?_previous_inStep _ _ _

end

/-! ## One call after the other -/

/-- Whatever happens between two calls, the working directory and the variable that leads back are the
same as before, the output stream takes all that is written, and both directories can be entered. -/
structure CarriesOn (first second : Bytes) (s t : Session) : Prop where
  currentDirectory : t.disk.currentDirectory = s.disk.currentDirectory
  previous : t.env.get? previousVariable = s.env.get? previousVariable
  takesAll : t.out.TakesAll
  first : t.disk.IsWayTo first
  second : t.disk.IsWayTo second

/-- Calls that go back, with the operand of each and the session in which it is made. -/
inductive GoesBack (first second : Bytes) (s : Session) : List (Text × Session) → Session → Prop
  | start : GoesBack first second s [] s
  | call {calls : List (Text × Session)} {t u : Session} {operand : Text} :
    GoesBack first second s calls t → CarriesOn first second t u → IsBackOperand operand →
    GoesBack first second s (calls ++ [(operand, u)]) ((changeDirectory [operand]).run u).2

/-- The directory in which so many calls end. -/
def sideAfter (first second : Bytes) (calls : Nat) : Bytes :=
  if Even calls then second else first

/-- The call succeeds, leads to a directory and shows it if it is asked to. -/
def LeadsTo (operand : Text) (s : Session) (path : Bytes) : Prop :=
  ∃ t, (changeDirectory [operand]).run s = (.ok (.status 0), t) ∧
    t.disk.currentDirectory = .ok path ∧
    t.out.contents = s.out.contents ++ shownBy [operand] path

section

variable {first second : Bytes} {s t u : Session} {n : Nat}

theorem sideAfter_add_two (first second : Bytes) (n : Nat) :
    sideAfter first second (n + 2) = sideAfter first second n := by
  simp [sideAfter, Nat.even_add_one]

/-- The session is in the directory in which so many calls end, and keeps the path of the other one. -/
structure AtSide (first second : Bytes) (n : Nat) (s : Session) : Prop where
  currentDirectory : s.disk.currentDirectory = .ok (sideAfter first second n)
  previous : s.env.get? previousVariable = some (sideAfter first second (n + 1))

theorem CarriesOn.atSide (h : CarriesOn first second s t) (hside : AtSide first second n s) :
    AtSide first second n t :=
  ⟨h.currentDirectory.trans hside.currentDirectory, h.previous.trans hside.previous⟩

theorem CarriesOn.isWayTo (h : CarriesOn first second s t) (n : Nat) :
    t.disk.IsWayTo (sideAfter first second n) := by
  unfold sideAfter
  split
  · exact h.second
  · exact h.first

/-- One more call leads to the other directory. -/
theorem AtSide.step {operand : Text} (hside : AtSide first second n s)
    (h : CarriesOn first second s t) (hoperand : IsBackOperand operand) :
    AtSide first second (n + 1) ((changeDirectory [operand]).run t).2 ∧
      LeadsTo operand t (sideAfter first second (n + 1)) := by
  have ht := h.atSide hside
  obtain ⟨u, hrun, hcurrent, hprevious, hcontents⟩ :=
    changeDirectory_back hoperand ht.currentDirectory ht.previous (h.isWayTo (n + 1)) h.takesAll
  refine ⟨?_, u, hrun, hcurrent, hcontents⟩
  rw [hrun]
  exact ⟨hcurrent, hprevious.trans (by rw [sideAfter_add_two])⟩

/-- **Calls that go back lead from one directory to the other**, each of them to the one it did not begin
in. -/
theorem GoesBack.atSide {calls : List (Text × Session)} (h : GoesBack first second s calls t)
    (hside : AtSide first second 0 s) :
    AtSide first second calls.length t ∧
      ∀ i operand u, calls[i]? = some (operand, u) →
        LeadsTo operand u (sideAfter first second (i + 1)) := by
  induction h with
  | start => exact ⟨hside, by simp⟩
  | @call calls t u operand _ hcarries hoperand ih =>
      obtain ⟨ht, hcalls⟩ := ih
      obtain ⟨hstep, hleads⟩ := ht.step hcarries hoperand
      refine ⟨by simpa using hstep, fun i operand' u' hi => ?_⟩
      rcases Nat.lt_trichotomy i calls.length with hlt | rfl | hgt
      · rw [List.getElem?_append_left hlt] at hi
        exact hcalls i operand' u' hi
      · obtain ⟨rfl, rfl⟩ : operand = operand' ∧ u = u' := by simpa using hi
        exact hleads
      · have hlength : (calls ++ [(operand, u)]).length ≤ i := by
          rw [List.length_append]
          exact hgt
        rw [List.getElem?_eq_none hlength] at hi
        cases hi

/-- **The two variables are in step with the working directory** after a call that succeeds, whatever its
operands, and the other variables are as before. Hence calls that go back lead from one of the two
directories to the other. -/
theorem directory_variables_in_step {operands : List Text}
    (h : (changeDirectory operands).run s = (.ok (.status 0), t)) :
    ∃ first second,
      s.disk.currentDirectory = .ok first ∧ t.disk.currentDirectory = .ok second ∧
      t.env.get? previousVariable = some first ∧ t.env.get? currentVariable = some second ∧
      t.env.others = s.env.others ∧
      ∀ calls u, GoesBack first second t calls u →
        u.disk.currentDirectory = .ok (sideAfter first second calls.length) ∧
        ∀ i operand v, calls[i]? = some (operand, v) →
          LeadsTo operand v (sideAfter first second (i + 1)) := by
  obtain ⟨hthere, disk, out, harrival, rfl⟩ := arrival_of_status h
  have harrived : disk.cwd.isThere := isThere_of_arrival hthere harrival
  have hcurrent : disk.currentDirectory = .ok disk.cwd.place.path :=
    Disk.currentDirectory_eq_ok_iff.mpr ⟨harrived, rfl⟩
  have hprevious := Environment.get?_previous_inStep s.env s.disk.cwd.place.path disk.cwd.place.path
  refine ⟨s.disk.cwd.place.path, disk.cwd.place.path,
    Disk.currentDirectory_eq_ok_iff.mpr ⟨hthere, rfl⟩, hcurrent, hprevious,
    Environment.get?_current_inStep _ _ _, Environment.others_inStep _ _ _, fun calls u hcalls => ?_⟩
  obtain ⟨hside, hleads⟩ := hcalls.atSide ⟨hcurrent, hprevious⟩
  exact ⟨hside.currentDirectory, hleads⟩

end

/-- From `/` to `/a`, and then back and forth. -/
theorem directory_variables_in_step_of_root :
    let a := [Utf8.encode ['a']]
    let s := Session.new "husk".toList 1 .empty ⟨⟨[(a, .directory true)]⟩, .root⟩
    let t := s.moved { s.disk with cwd := ⟨a, 0⟩ }
    let u := ((changeDirectory [backOperand]).run t).2
    (changeDirectory ["/a".toList]).run s = (.ok (.status 0), t) ∧
      t.env.get? currentVariable = some (Utf8.encode "/a".toList) ∧
      (changeDirectory [backOperand]).run t = (.ok (.status 0), u) ∧
      u.disk.currentDirectory = .ok [slash] ∧
      u.out.contents = Utf8.encode "/\n".toList := by
  intro a s t u
  have hname : IsEntryName (Utf8.encode ['a']) := by constructor <;> decide
  have hdirectory : s.disk.directory (Utf8.encode "/a".toList) = .ok ⟨a, 0⟩ :=
    Disk.directory_below_root hname (by decide) (by decide) rfl
  have hrun : (changeDirectory ["/a".toList]).run s = (.ok (.status 0), t) := by
    refine (changeDirectory_of_arrival rfl (arrival_of_directory (by decide) hdirectory [])).trans ?_
    rfl
  have hwayRoot : t.disk.IsWayTo [slash] :=
    ⟨Disk.canEnter_iff.mpr ⟨_, t.disk.directory_slash⟩, leadsBack_path Files.isDirectoryChain_nil⟩
  have hway : t.disk.IsWayTo (Utf8.encode "/a".toList) :=
    ⟨Disk.canEnter_iff.mpr ⟨_, Disk.directory_below_root hname (by decide) (by decide) rfl⟩,
      leadsBack_path (Files.isDirectoryChain_nil.concat hname (by decide))⟩
  obtain ⟨first, second, hfirst, hsecond, -, hcurrent, -, hcalls⟩ := directory_variables_in_step hrun
  obtain rfl : [slash] = first := Except.ok.inj hfirst
  obtain rfl : Utf8.encode "/a".toList = second := Except.ok.inj hsecond
  obtain ⟨hu, hleads⟩ :=
    hcalls _ _ (.call .start ⟨rfl, rfl, Stream.isWorking_new.takesAll, hwayRoot, hway⟩ (.inl rfl) : GoesBack _ _ t [(backOperand, t)] u)
  obtain ⟨u', hback, -, hcontents⟩ := hleads 0 backOperand t rfl
  obtain rfl : u = u' := congrArg Prod.snd hback
  exact ⟨hrun, hcurrent, hback, hu, hcontents⟩

end CommandShell
