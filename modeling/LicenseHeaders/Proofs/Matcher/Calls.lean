import LicenseHeaders.License
import LicenseHeaders.Proofs.Matcher.Feeding

/-!
# Calls of a matcher

A matcher lives through calls: it is read lines, asked for its verdict, told that the header is over
and told to forget. `Matcher.afterCalls` is what becomes of it, `Matcher.answers` is what the calls
return, and a license answers as its matcher does (`License.answers_eq`).

No call leaves a trace that a reset does not remove: a tree of the built-in kinds is the same after
a reset whatever was called before (`Matcher.reset_afterCalls`). A copy is called as its original
is, and the two stay alike (`Matcher.call_copied`), so they answer alike (`Matcher.answers_copied`).
A fresh copy therefore answers as a tree does that has been reset, in whatever state it was copied
(`Matcher.answers_fresh_afterCalls`).
-/

set_option autoImplicit false
set_option relaxedAutoImplicit false

namespace LicenseHeaders

namespace Matcher

/-- A call of a matcher. -/
inductive Call where
  /-- Reads a line. -/
  | feed (line : List Char)
  /-- Asks for the verdict so far. -/
  | ask
  /-- Says that no line follows. -/
  | finish
  /-- Says that the lines are to be forgotten. -/
  | reset
deriving DecidableEq, Repr

/-- What a call returns, which is nothing for a reset, and the matcher afterwards. -/
def call (call : Call) (matcher : Matcher) : Option Verdict × Matcher :=
  match call with
  | .feed line => (some (matcher.feed line).1, (matcher.feed line).2)
  | .ask => (some matcher.verdict, matcher)
  | .finish => (some matcher.finish.1, matcher.finish.2)
  | .reset => (none, matcher.reset)

/-- A matcher after calls in order. -/
def afterCalls (matcher : Matcher) (calls : List Call) : Matcher :=
  calls.foldl (fun matcher call ↦ (matcher.call call).2) matcher

/-- What calls in order return. -/
def answers (matcher : Matcher) : List Call → List (Option Verdict)
  | [] => []
  | call :: rest => (matcher.call call).1 :: (matcher.call call).2.answers rest

@[simp] theorem afterCalls_nil (matcher : Matcher) : matcher.afterCalls [] = matcher :=
  rfl

@[simp] theorem afterCalls_cons (matcher : Matcher) (call : Call) (rest : List Call) :
    matcher.afterCalls (call :: rest) = (matcher.call call).2.afterCalls rest :=
  rfl

/-! ### What a reset removes -/

/-- What a leaf forgets is all that reading a line has changed. -/
theorem forget_read (criterion : Criterion) (line : List Char) :
    (criterion.read line).2.forget = criterion.forget := by
  cases criterion with
  | phrase phrase =>
    simp only [Criterion.read, Phrase.read]
    split <;> rfl
  | literal text => rfl
  | notice notice patterns => rfl
  | identifier key => rfl

/-- A reset removes what reading a line has done. Assumes: a tree of the built-in kinds. -/
theorem reset_feed {matcher : Matcher} (hbuiltIn : matcher.isBuiltIn = true) (line : List Char) :
    (matcher.feed line).2.reset = matcher.reset := by
  -- A member that the reading has not reached is as it was, and one that it has reached is reset to
  -- what it would have been.
  have hmembers : ∀ stop {members : List Matcher},
      (∀ member ∈ members, member.isBuiltIn = true → (member.feed line).2.reset = member.reset) →
      areBuiltIn members = true →
      (feedUntil stop line members).2.map reset = members.map reset := by
    intro stop members ih hmembers
    rw [areBuiltIn_iff] at hmembers
    have hpairs : List.Forall₂ (fun before after ↦ reset after = reset before) members
        (feedUntil stop line members).2 :=
      forall₂_feedUntil stop line (fun _ _ ↦ rfl) fun member hmember ↦
        ih member hmember (hmembers member hmember)
    rw [← List.forall₂_eq_eq_eq, List.forall₂_map_left_iff, List.forall₂_map_right_iff]
    exact hpairs.flip
  induction matcher using induction with
  | leaf id criterion verdict =>
    cases verdict with
    | unknown => simp only [feed, reset, forget_read]
    | holds => rfl
    | fails => rfl
  | probe id verdict fed resets => cases hbuiltIn
  | all id members ih =>
    simp only [feed, reset, resetEach_eq_map]
    exact congrArg (Matcher.all id) (hmembers _ ih hbuiltIn)
  | any id members ih =>
    simp only [feed, reset, resetEach_eq_map]
    exact congrArg (Matcher.any id) (hmembers _ ih hbuiltIn)
  | negation id member ih => exact congrArg (Matcher.negation id) (ih hbuiltIn)
  | reference id name copy ih => exact congrArg (Matcher.reference id name) (ih hbuiltIn)
  | registered name matcher ih => exact congrArg (Matcher.registered name) (ih hbuiltIn)

/-- A reset removes what finishing has done. Assumes: a tree of the built-in kinds. -/
theorem reset_finish {matcher : Matcher} (hbuiltIn : matcher.isBuiltIn = true) :
    matcher.finish.2.reset = matcher.reset := by
  induction matcher using induction with
  | leaf id criterion verdict => rfl
  | probe id verdict fed resets => cases hbuiltIn
  | all id members ih =>
    have hmembers := (areBuiltIn_iff members).mp hbuiltIn
    simp only [finish, reset, finishEach_eq, resetEach_eq_map, List.map_map]
    exact congrArg (Matcher.all id) (List.map_congr_left fun member hmember ↦
      ih member hmember (hmembers member hmember))
  | any id members ih =>
    have hmembers := (areBuiltIn_iff members).mp hbuiltIn
    simp only [finish, reset, finishEach_eq, resetEach_eq_map, List.map_map]
    exact congrArg (Matcher.any id) (List.map_congr_left fun member hmember ↦
      ih member hmember (hmembers member hmember))
  | negation id member ih => exact congrArg (Matcher.negation id) (ih hbuiltIn)
  | reference id name copy ih => exact congrArg (Matcher.reference id name) (ih hbuiltIn)
  | registered name matcher ih => exact congrArg (Matcher.registered name) (ih hbuiltIn)

/-- A reset removes what a call has done. Assumes: a tree of the built-in kinds. -/
theorem reset_call {matcher : Matcher} (hbuiltIn : matcher.isBuiltIn = true) (call : Call) :
    (matcher.call call).2.reset = matcher.reset := by
  cases call with
  | feed line => exact reset_feed hbuiltIn line
  | ask => rfl
  | finish => exact reset_finish hbuiltIn
  | reset => exact reset_reset hbuiltIn

/-- A call leaves a tree of the built-in kinds behind if it is given one. -/
theorem isBuiltIn_call {matcher : Matcher} (hbuiltIn : matcher.isBuiltIn = true) (call : Call) :
    (matcher.call call).2.isBuiltIn = true := by
  rw [← isBuiltIn_reset, reset_call hbuiltIn, isBuiltIn_reset, hbuiltIn]

/-- Whatever was called before, a reset leads to the same tree. Assumes: a tree of the built-in
kinds. -/
theorem reset_afterCalls {matcher : Matcher} (hbuiltIn : matcher.isBuiltIn = true)
    (calls : List Call) : (matcher.afterCalls calls).reset = matcher.reset := by
  induction calls generalizing matcher with
  | nil => rfl
  | cons call rest ih =>
    rw [afterCalls_cons, ih (isBuiltIn_call hbuiltIn call), reset_call hbuiltIn]

/-! ### Copies -/

theorem verdict_copied (matcher : Matcher) : matcher.copied.verdict = matcher.verdict := by
  induction matcher using induction with
  | leaf id criterion verdict => rfl
  | probe id verdict fed resets => rfl
  | all id members ih =>
    simp only [copied, verdict, verdicts_eq_map, copiedEach_eq_map, List.map_map]
    exact congrArg Verdict.all (List.map_congr_left ih)
  | any id members ih =>
    simp only [copied, verdict, verdicts_eq_map, copiedEach_eq_map, List.map_map]
    exact congrArg Verdict.any (List.map_congr_left ih)
  | negation id member ih => exact congrArg Verdict.negate ih
  | reference id name copy ih => exact ih
  | registered name matcher ih => exact ih

/-- Members that are read a line as their copies are stop the reading at the same place. -/
theorem feedUntil_copiedEach (stop : Verdict) (line : List Char) {members : List Matcher}
    (hfeed : ∀ member ∈ members,
      member.copied.feed line = ((member.feed line).1, (member.feed line).2.copied)) :
    feedUntil stop line (copiedEach members) =
      ((feedUntil stop line members).1, copiedEach (feedUntil stop line members).2) := by
  induction members with
  | nil => rfl
  | cons member rest ih =>
    have hrest := ih fun other hother ↦ hfeed other (List.mem_cons_of_mem _ hother)
    simp only [copiedEach, feedUntil, hfeed member List.mem_cons_self, hrest]
    by_cases hstop : (member.feed line).1 = stop
    · simp only [if_pos hstop, copiedEach]
    · simp only [if_neg hstop, copiedEach]

/-- A copy is read a line as its original is. -/
theorem feed_copied (matcher : Matcher) (line : List Char) :
    matcher.copied.feed line = ((matcher.feed line).1, (matcher.feed line).2.copied) := by
  induction matcher using induction with
  | leaf id criterion verdict => cases verdict <;> rfl
  | probe id verdict fed resets => rfl
  | all id members ih =>
    have hverdict := verdict_copied (.all id (feedUntil .fails line members).2)
    simp only [copied] at hverdict
    simp only [copied, feed, feedUntil_copiedEach _ _ ih, hverdict]
  | any id members ih =>
    have hverdict := verdict_copied (.any id (feedUntil .holds line members).2)
    simp only [copied] at hverdict
    simp only [copied, feed, feedUntil_copiedEach _ _ ih, hverdict]
  | negation id member ih => simp only [copied, feed, ih]
  | reference id name copy ih => simp only [copied, feed, ih]
  | registered name matcher ih => simp only [copied, feed, ih]

/-- Members that finish as their copies do are finished together with them. -/
theorem finishEach_copiedEach {members : List Matcher} (hfinish : ∀ member ∈ members,
      member.copied.finish = (member.finish.1, member.finish.2.copied)) :
    finishEach (copiedEach members) =
      ((finishEach members).1, copiedEach (finishEach members).2) := by
  induction members with
  | nil => rfl
  | cons member rest ih =>
    have hrest := ih fun other hother ↦ hfinish other (List.mem_cons_of_mem _ hother)
    simp only [copiedEach, finishEach, hfinish member List.mem_cons_self, hrest]

/-- A copy is finished as its original is. -/
theorem finish_copied (matcher : Matcher) :
    matcher.copied.finish = (matcher.finish.1, matcher.finish.2.copied) := by
  induction matcher using induction with
  | leaf id criterion verdict => rfl
  | probe id verdict fed resets => rfl
  | all id members ih => simp only [copied, finish, finishEach_copiedEach ih]
  | any id members ih => simp only [copied, finish, finishEach_copiedEach ih]
  | negation id member ih => simp only [copied, finish, ih]
  | reference id name copy ih => simp only [copied, finish, ih]
  | registered name matcher ih => simp only [copied, finish, ih]

theorem reset_copied (matcher : Matcher) : matcher.copied.reset = matcher.reset.copied := by
  induction matcher using induction with
  | leaf id criterion verdict => rfl
  | probe id verdict fed resets => rfl
  | all id members ih =>
    simp only [copied, reset, resetEach_eq_map, copiedEach_eq_map, List.map_map]
    exact congrArg (Matcher.all id) (List.map_congr_left ih)
  | any id members ih =>
    simp only [copied, reset, resetEach_eq_map, copiedEach_eq_map, List.map_map]
    exact congrArg (Matcher.any id) (List.map_congr_left ih)
  | negation id member ih => exact congrArg (Matcher.negation id) ih
  | reference id name copy ih => exact congrArg (Matcher.reference id name) ih
  | registered name matcher ih => exact ih

/-- A call of a copy returns what it returns for the original, and the two stay alike. -/
theorem call_copied (matcher : Matcher) (call : Call) :
    matcher.copied.call call = ((matcher.call call).1, (matcher.call call).2.copied) := by
  cases call with
  | feed line => simp only [Matcher.call, feed_copied]
  | ask => simp only [Matcher.call, verdict_copied]
  | finish => simp only [Matcher.call, finish_copied]
  | reset => simp only [Matcher.call, reset_copied]

/-- A copy answers as its original does. -/
theorem answers_copied (matcher : Matcher) (calls : List Call) :
    matcher.copied.answers calls = matcher.answers calls := by
  induction calls generalizing matcher with
  | nil => rfl
  | cons call rest ih => rw [answers, call_copied, ih, answers]

/-- A fresh copy of a tree answers as the tree does after a reset, whatever was called before it was
copied. Assumes: a tree of the built-in kinds. -/
theorem answers_fresh_afterCalls {matcher : Matcher} (hbuiltIn : matcher.isBuiltIn = true)
    (history calls : List Call) :
    (matcher.afterCalls history).fresh.answers calls = matcher.reset.answers calls := by
  rw [fresh, reset_copied, answers_copied, reset_afterCalls hbuiltIn]

/-- A reference is called as its copy is. -/
theorem call_reference (id : Option String) (name : String) (copy : Matcher) (call : Call) :
    (reference id name copy).call call =
      ((copy.call call).1, reference id name (copy.call call).2) := by
  cases call <;> rfl

/-- A reference answers as its copy does. -/
theorem answers_reference (id : Option String) (name : String) (copy : Matcher)
    (calls : List Call) :
    (reference id name copy).answers calls = copy.answers calls := by
  induction calls generalizing copy with
  | nil => rfl
  | cons call rest ih => rw [answers, call_reference, ih, answers]

end Matcher

/-! ### Calls of a license -/

namespace License

/-- What a call of a license returns, which is nothing for a reset, and the license afterwards. -/
def call (call : Matcher.Call) (license : License) : Option Verdict × License :=
  match call with
  | .feed line => (some (license.feed line).1, (license.feed line).2)
  | .ask => (some license.matcher.verdict, license)
  | .finish => (some license.finish.1, license.finish.2)
  | .reset => (none, license.reset)

/-- A license after calls in order. -/
def afterCalls (license : License) (calls : List Matcher.Call) : License :=
  calls.foldl (fun license call ↦ (license.call call).2) license

/-- What calls of a license in order return. -/
def answers (license : License) : List Matcher.Call → List (Option Verdict)
  | [] => []
  | call :: rest => (license.call call).1 :: (license.call call).2.answers rest

/-- A call of a license is one of its matcher. -/
theorem call_eq (license : License) (call : Matcher.Call) :
    license.call call = ((license.matcher.call call).1,
      { license with matcher := (license.matcher.call call).2 }) := by
  cases call <;> rfl

theorem afterCalls_eq (license : License) (calls : List Matcher.Call) :
    license.afterCalls calls = { license with matcher := license.matcher.afterCalls calls } := by
  induction calls generalizing license with
  | nil => rfl
  | cons call rest ih => rw [afterCalls, List.foldl_cons, ← afterCalls, ih, call_eq]; rfl

/-- A license answers as its matcher does. -/
theorem answers_eq (license : License) (calls : List Matcher.Call) :
    license.answers calls = license.matcher.answers calls := by
  induction calls generalizing license with
  | nil => rfl
  | cons call rest ih => rw [answers, call_eq, ih, Matcher.answers]

end License

end LicenseHeaders
