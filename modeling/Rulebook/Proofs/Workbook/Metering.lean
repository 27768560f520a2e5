import Rulebook.Proofs.Workbook.Passes
import Rulebook.Proofs.Workbook.Refusals
import Mathlib.Algebra.BigOperators.Group.List.Basic
import Mathlib.Algebra.GroupWithZero.Nat

/-!
# What the meters count

An `Event` is one action of a session with what came of it. Whether it labelled rows, whether it
made a summary and whether a rule was refused can be told from the action and its outcome alone
(`Event.isPass`, `Event.isSummary`, `Event.refusal?`), and `Meters.enter` enters an event by these
and by the workbook that it led to. The meters of a session are kept in another way, by counting
matches before the labels are written. `Session.event_metered` says that for one action it comes to
the same, and `Session.meters_run` for any number of them; so the meters account for every row of
every pass (`Session.meters_account`). Refusals are counted by the name of the reason, and different
reasons have different names (`Rejection.kind_eq_iff`).
-/

set_option autoImplicit false

namespace Rulebook

namespace Rejection

/-- Two rejections have the same reason, whatever name or field they are about. -/
def sameReason : Rejection → Rejection → Bool
  | .emptyName, .emptyName | .emptyText, .emptyText | .emptyGroupKey, .emptyGroupKey => true
  | .duplicateName _, .duplicateName _ | .duplicateGroupField _, .duplicateGroupField _ => true
  | _, _ => false

/-- A reason is told by its name. -/
theorem kind_eq_iff {a b : Rejection} : a.kind = b.kind ↔ a.sameReason b = true := by
  cases a <;> cases b <;> simp [kind, sameReason]

end Rejection

/-- An action as it was taken: what it gave, and the sessions before and after it. -/
structure Event where
  before : Session
  action : Action
  outcome : Except Fault Outcome
  after : Session

namespace Event

/-- Rows were labelled: when rules were moved or a full pass was asked for in any case, when rows
were put in, when a rule was added, edited or deleted and when a snapshot was restored if it
succeeded, and when a file was opened that was there. -/
def isPass (e : Event) : Bool :=
  match e.action, e.outcome with
  | .change (.moveRule _ _), _ | .change .recompute, _ => true
  | .change (.importRows _), .ok _ | .change (.addRule _ _), .ok _ => true
  | .change (.editRule _ _ _), .ok _ | .change (.deleteRule _), .ok _ => true
  | .importText _, .ok _ | .restoreText _, .ok _ => true
  | .reopen, .ok _ => e.before.file ≠ .absent
  | _, _ => false

/-- A summary was made: after every pass, and when what is grouped or added up was changed. -/
def isSummary (e : Event) : Bool :=
  e.isPass ||
    match e.action, e.outcome with
    | .change (.group _), .ok _ | .change (.regroup _), .ok _ | .change (.sum _), .ok _ => true
    | _, _ => false

/-- The operation and the reason, where a rule that was to be added or edited was refused for what
is wrong with it. -/
def refusal? (e : Event) : Option (RuleOperation × String) :=
  match e.action, e.outcome with
  | .change (.addRule _ _), .error (.rejected rejection) => some (.add, rejection.kind)
  | .change (.editRule _ _ _), .error (.rejected rejection) => some (.edit, rejection.kind)
  | _, _ => none

/-- A rule that was to be added or edited was refused for the same reason as the rejection given. -/
def refuses (operation : RuleOperation) (rejection : Rejection) (e : Event) : Bool :=
  match e.action, e.outcome with
  | .change (.addRule _ _), .error (.rejected other) =>
      operation = .add && other.sameReason rejection
  | .change (.editRule _ _ _), .error (.rejected other) =>
      operation = .edit && other.sameReason rejection
  | _, _ => false

end Event

/-- The meters after an event, by what can be told from the event and the workbook after it. -/
def Meters.enter (m : Meters) (e : Event) : Meters where
  passes := m.passes + if e.isPass then 1 else 0
  labelled := m.labelled + if e.isPass then e.after.workbook.rows.countP Row.isLabelled else 0
  unlabelled := m.unlabelled + if e.isPass then e.after.workbook.rows.countP Row.isUnlabelled else 0
  groups := if e.isSummary then some e.after.workbook.summary.length else m.groups
  refusals := m.refusals ++ e.refusal?.toList

/-- The meters went on from those before as the event says. -/
def Event.Metered (e : Event) : Prop := e.after.meters = e.before.meters.enter e

namespace Session

/-- The event of one action. -/
def event (s : Session) (a : Action) : Event := ⟨s, a, (s.step a).1, (s.step a).2⟩

/-- The events of actions that are taken one after the other. -/
def events (s : Session) : List Action → List Event
  | [] => []
  | a :: actions => s.event a :: (s.event a).after.events actions

/-- The session after actions that are taken one after the other. -/
def run (s : Session) : List Action → Session
  | [] => s
  | a :: actions => (s.event a).after.run actions

/-- The workbook of the session is one that changes lead to. -/
def Sound (s : Session) : Prop := ∃ imported, Workbook.Reached imported s.workbook

end Session

/-! ## One event -/

namespace Event

variable {e : Event} {amended : Workbook}

theorem refusal?_eq_some_iff {operation : RuleOperation} {rejection : Rejection} :
    e.refusal? = some (operation, rejection.kind) ↔ e.refuses operation rejection = true := by
  rw [refusal?, refuses]
  split
  · simp [Rejection.kind_eq_iff, eq_comm (a := operation)]
  · simp [Rejection.kind_eq_iff, eq_comm (a := operation)]
  · simp

theorem metered_of_quiet (hpass : e.isPass = false) (hsummary : e.isSummary = false)
    (hrefusal : e.refusal? = none) (hmeters : e.after.meters = e.before.meters) : e.Metered := by
  rw [Metered, hmeters]
  simp [Meters.enter, hpass, hsummary, hrefusal]

/-- A pass counts the matches among the rows before it; these are the labels after it. -/
theorem metered_of_pass (hpass : e.isPass = true) (hrefusal : e.refusal? = none)
    (hvalid : amended.rules.Valid) (hworkbook : e.after.workbook = amended.recompute)
    (hmeters : e.after.meters = e.before.meters.countRecompute amended) : e.Metered := by
  have hsummary : e.isSummary = true := by simp [isSummary, hpass]
  have hrows : e.after.workbook.rows = amended.rules.labelRows amended.rows := by
    rw [hworkbook]
    rfl
  have hlabelled : e.after.workbook.rows.countP Row.isLabelled =
      Meters.matchCount amended.rules amended.rows := by
    rw [hrows]
    exact hvalid.countP_isLabelled amended.rows
  have hunlabelled : e.after.workbook.rows.countP Row.isUnlabelled =
      amended.rows.length - Meters.matchCount amended.rules amended.rows := by
    -- the meter has the difference; what is left over is what did not match
    have hsplit := List.length_eq_countP_add_countP
      (fun row => (amended.rules.firstMatch? row).isSome) (l := amended.rows)
    rw [hrows, hvalid.countP_isUnlabelled, hsplit, Meters.matchCount, Nat.add_sub_cancel_left]
    apply List.countP_congr
    intro row _
    simp
  rw [Metered, hmeters, Meters.enter, hlabelled, hunlabelled]
  simp [Meters.countRecompute, Meters.countSummary, Meters.countPass, hpass, hsummary, hrefusal,
    hworkbook]

theorem metered_of_summary (hpass : e.isPass = false) (hsummary : e.isSummary = true)
    (hrefusal : e.refusal? = none) (hworkbook : e.after.workbook = amended.resummarize)
    (hmeters : e.after.meters = e.before.meters.countSummary amended.resummarize) : e.Metered := by
  rw [Metered, hmeters]
  simp [Meters.enter, Meters.countSummary, hpass, hsummary, hrefusal, hworkbook]

theorem metered_of_refusal {refusal : RuleOperation × String} (hpass : e.isPass = false)
    (hsummary : e.isSummary = false) (hrefusal : e.refusal? = some refusal)
    (hmeters : e.after.meters =
      { e.before.meters with refusals := e.before.meters.refusals ++ [refusal] }) :
    e.Metered := by
  rw [Metered, hmeters]
  simp [Meters.enter, hpass, hsummary, hrefusal]

end Event

namespace Session

open Workbook

variable {s : Session}

/-! ## The workbook of a session -/

theorem workbook_change (s : Session) (c : Change) :
    (s.change c).2.workbook = s.workbook.after c := by
  rw [change, Workbook.after, Workbook.change]
  cases s.workbook.amend c with
  | error fault => rfl
  | ok amended => rfl

/-- What is assembled from a text is a snapshot that is restored by a full pass. -/
theorem exists_restore_of_assembleText {text : String} {assembled : Workbook}
    (h : assembleText text = .ok assembled) : ∃ snap, restore snap = .ok assembled.recompute := by
  rw [assembleText] at h
  split at h
  · cases h
  · rename_i snap _
    exact ⟨snap, map_eq_ok_iff.2 ⟨assembled, h, rfl⟩⟩

/-- What is assembled from a file is assembled from the text in it. -/
theorem exists_text_of_assembleFile {file : Contents} {found : Option Workbook}
    (h : assembleFile file = .ok found) :
    (file = .absent ∧ found = none) ∨ ∃ text assembled, file = .text text ∧
      assembleText text = .ok assembled ∧ found = some assembled := by
  cases file with
  | absent => exact .inl ⟨rfl, (Except.ok.inj h).symm⟩
  | text text =>
      obtain ⟨assembled, hassemble, hfound⟩ := map_eq_ok_iff.1 h
      exact .inr ⟨text, assembled, rfl, hassemble, hfound.symm⟩
  | garbled => cases h
  | inaccessible => cases h

theorem sound_adopt (h : s.Sound) {found : Except Fault (Option Workbook)}
    (hfound : ∀ assembled, found = .ok (some assembled) →
      ∃ snap, restore snap = .ok assembled.recompute) : (s.adopt found).2.Sound := by
  rcases found with fault | ⟨_ | assembled⟩
  · exact h
  · exact ⟨[], .empty⟩
  · obtain ⟨snap, hrestore⟩ := hfound assembled rfl
    exact ⟨snap.rows, .restored hrestore⟩

/-- No action leads out of the workbooks that changes lead to. -/
theorem sound_event (h : s.Sound) (a : Action) : (s.event a).after.Sound := by
  obtain ⟨imported, hreached⟩ := h
  have hchange : ∀ c, (s.change c).2.Sound := by
    intro c
    refine ⟨c.imported imported, ?_⟩
    rw [workbook_change]
    exact hreached.changed c
  cases a with
  | change c => exact hchange c
  | importText text =>
      rw [event, step]
      cases rowsOfText? text with
      | none => exact ⟨imported, hreached⟩
      | some rows => exact hchange (.importRows rows)
  | restoreText text =>
      refine sound_adopt ⟨imported, hreached⟩ ?_
      intro assembled hfound
      obtain ⟨found, hassemble, hsome⟩ := map_eq_ok_iff.1 hfound
      obtain rfl := Option.some.inj hsome
      exact exists_restore_of_assembleText hassemble
  | save =>
      rw [event, step, save]
      cases s.file with
      | inaccessible => exact ⟨imported, hreached⟩
      | absent | text _ | garbled => exact ⟨imported, hreached⟩
  | reopen =>
      refine sound_adopt ⟨imported, hreached⟩ ?_
      intro assembled hfound
      rcases exists_text_of_assembleFile hfound with ⟨-, hnone⟩ | ⟨text, _, -, hassemble, hsome⟩
      · cases hnone
      · obtain rfl := Option.some.inj hsome
        exact exists_restore_of_assembleText hassemble
  | putFile file => exact ⟨imported, hreached⟩

/-! ## What an action adds to the meters -/

/-- A change that goes through labels rows or not as its kind says, and makes a summary in any
case. -/
theorem metered_change_ok {c : Change} {effect : Effect} {amended : Workbook} {next : Session}
    (hvalid : amended.rules.Valid) (hworkbook : next.workbook = amended.refresh c)
    (hmeters : next.meters = s.meters.countChange c amended) :
    (Event.mk s (.change c) (.ok (.effect effect)) next).Metered := by
  have hpass : (Event.mk s (.change c) (.ok (.effect effect)) next).isPass = c.relabels := by
    cases c <;> rfl
  have hsummary : (Event.mk s (.change c) (.ok (.effect effect)) next).isSummary = true := by
    cases c <;> rfl
  have hrefusal : (Event.mk s (.change c) (.ok (.effect effect)) next).refusal? = none := by
    cases c <;> rfl
  rw [refresh] at hworkbook
  rw [Meters.countChange] at hmeters
  cases hc : c.relabels with
  | true =>
      rw [hc, if_pos rfl] at hworkbook hmeters
      exact Event.metered_of_pass (hpass.trans hc) hrefusal hvalid hworkbook hmeters
  | false =>
      rw [hc, if_neg Bool.false_ne_true] at hworkbook hmeters
      exact Event.metered_of_summary (hpass.trans hc) hsummary hrefusal hworkbook hmeters

/-- A change that is refused is counted if it is a rule that something is wrong with. -/
theorem metered_change_error {c : Change} {fault : Fault} (hrefuses : s.workbook.Refuses c fault) :
    (Event.mk s (.change c) (.error fault)
      { s with meters := s.meters.countRefusal c fault }).Metered := by
  cases hrefuses with
  | add hunfit => exact Event.metered_of_refusal rfl rfl rfl rfl
  | edit hslot hunfit => exact Event.metered_of_refusal rfl rfl rfl rfl
  | editMissing hslot => exact Event.metered_of_quiet rfl rfl rfl rfl
  | deleteMissing hslot => exact Event.metered_of_quiet rfl rfl rfl rfl
  | groupNothing => exact Event.metered_of_quiet rfl rfl rfl rfl
  | groupTwice hnodup hfield => exact Event.metered_of_quiet rfl rfl rfl rfl
  | regroupNothing => exact Event.metered_of_quiet rfl rfl rfl rfl

/-- To go over to an assembled workbook is a pass. -/
theorem metered_adopted {a : Action} {assembled : Workbook}
    (hrestore : ∃ snap, restore snap = .ok assembled.recompute)
    (hpass : ∀ next, (Event.mk s a (.ok (.effect .done)) next).isPass = true)
    (hrefusal : ∀ next, (Event.mk s a (.ok (.effect .done)) next).refusal? = none) :
    (Event.mk s a (s.adopt (.ok (some assembled))).1
      (s.adopt (.ok (some assembled))).2).Metered := by
  obtain ⟨snap, hrestore⟩ := hrestore
  have hvalid : assembled.rules.Valid := (Reached.restored hrestore).rules.valid
  exact Event.metered_of_pass (hpass _) (hrefusal _) hvalid rfl rfl

/-- Every action adds to the meters what its event says. -/
theorem event_metered (h : s.Sound) (a : Action) : (s.event a).Metered := by
  obtain ⟨imported, hreached⟩ := h
  cases a with
  | change c =>
      cases hamend : s.workbook.amend c with
      | error fault =>
          rw [event, step, change, hamend]
          exact metered_change_error ((amend_eq_error_iff hreached.view.1).1 hamend)
      | ok amended =>
          -- the rules of the workbook after the change are valid, and a pass leaves them alone
          have hafter : (amended.2.refresh c).rules.Valid := by
            obtain ⟨imported, hnext⟩ := sound_event ⟨imported, hreached⟩ (.change c)
            rw [event, step, change, hamend] at hnext
            exact hnext.rules.valid
          rw [refresh_rules] at hafter
          rw [event, step, change, hamend]
          exact metered_change_ok hafter rfl rfl
  | importText text =>
      rw [event, step]
      cases rowsOfText? text with
      | none => exact Event.metered_of_quiet rfl rfl rfl rfl
      | some rows =>
          have hvalid : ({ s.workbook with rows := rows } : Workbook).rules.Valid :=
            hreached.rules.valid
          exact Event.metered_of_pass rfl rfl hvalid rfl rfl
  | restoreText text =>
      rw [event, step]
      cases hassemble : assembleText text with
      | error fault => exact Event.metered_of_quiet rfl rfl rfl rfl
      | ok assembled =>
          exact metered_adopted (exists_restore_of_assembleText hassemble) (fun _ => rfl)
            fun _ => rfl
  | save =>
      rw [event, step, save]
      cases s.file with
      | inaccessible => exact Event.metered_of_quiet rfl rfl rfl rfl
      | absent | text _ | garbled => exact Event.metered_of_quiet rfl rfl rfl rfl
  | reopen =>
      rw [event, step]
      cases hassemble : assembleFile s.file with
      | error fault => exact Event.metered_of_quiet rfl rfl rfl rfl
      | ok found =>
          rcases exists_text_of_assembleFile hassemble with ⟨hfile, rfl⟩ |
            ⟨text, assembled, hfile, htext, rfl⟩
          · -- without a file there is nothing to label
            exact Event.metered_of_quiet (by simp [Event.isPass, hfile, adopt])
              (by simp [Event.isSummary, Event.isPass, hfile, adopt]) rfl rfl
          · refine metered_adopted (exists_restore_of_assembleText htext) (fun _ => ?_) fun _ => rfl
            simp [Event.isPass, hfile]
  | putFile file => exact Event.metered_of_quiet rfl rfl rfl rfl

/-! ## Runs -/

/-- Whatever is true of every action in a sound session is true of every event of a run. -/
theorem forall_mem_events {holds : Event → Prop}
    (hevent : ∀ s : Session, s.Sound → ∀ a, holds (s.event a)) (h : s.Sound)
    (actions : List Action) : ∀ e ∈ s.events actions, holds e := by
  induction actions generalizing s with
  | nil =>
      intro e he
      cases he
  | cons a actions ih =>
      intro e he
      rcases List.mem_cons.1 he with rfl | he
      · exact hevent s h a
      · exact ih (sound_event h a) e he

/-- The meters after a run are those at its start with all events entered. -/
theorem meters_run (h : s.Sound) (actions : List Action) :
    (s.run actions).meters = (s.events actions).foldl Meters.enter s.meters := by
  induction actions generalizing s with
  | nil => rfl
  | cons a actions ih =>
      have hfirst : (s.event a).after.meters = s.meters.enter (s.event a) := event_metered h a
      rw [run, events, List.foldl_cons, ← hfirst]
      exact ih (sound_event h a)

end Session

namespace Meters

variable {events : List Event}

/-- What every pass adds to a count adds up over the passes of a run. -/
theorem count_foldl_enter (count : Meters → Nat) (amount : Event → Nat)
    (henter : ∀ m e, count (enter m e) = count m + if e.isPass then amount e else 0) (m : Meters)
    (events : List Event) : count (events.foldl enter m) =
      count m + ((events.filter Event.isPass).map amount).sum := by
  induction events generalizing m with
  | nil => rfl
  | cons e events ih =>
      rw [List.foldl_cons, ih, henter, List.filter_cons]
      cases e.isPass with
      | true =>
          rw [if_pos rfl, if_pos rfl, List.map_cons, List.sum_cons]
          omega
      | false =>
          rw [if_neg Bool.false_ne_true, if_neg Bool.false_ne_true]
          omega

/-- The refusals of a run are kept in the order of its events. -/
theorem refusals_foldl_enter (m : Meters) (events : List Event) :
    (events.foldl enter m).refusals = m.refusals ++ events.filterMap Event.refusal? := by
  induction events generalizing m with
  | nil => simp
  | cons e events ih =>
      rw [List.foldl_cons, ih, enter, List.filterMap_cons]
      cases e.refusal? with
      | none => simp
      | some refusal => simp

end Meters

namespace Session

/-- Let a session begin with an empty workbook and with nothing counted, whatever file there is, and
let any actions follow. Then there are as many passes counted as events that passed over the rows.
The rows counted as labelled are those that bear a label after each of these passes, and the others
those that bear the empty one, so both together are all rows that were passed over. The refusals
counted for an operation and a kind of reason are the events in which a rule was refused for it;
under the kind of a rejection they are those with the same reason. And whenever a summary is made,
the number of groups is that of this summary; otherwise it stays. -/
theorem meters_account (file : Contents) (actions : List Action) :
    let start : Session := ⟨.empty, file, .zero⟩
    let passes := (start.events actions).filter Event.isPass
    let meters := (start.run actions).meters
    meters.passes = passes.length ∧
    meters.labelled = (passes.map fun e => e.after.workbook.rows.countP Row.isLabelled).sum ∧
    meters.unlabelled = (passes.map fun e => e.after.workbook.rows.countP Row.isUnlabelled).sum ∧
    meters.labelled + meters.unlabelled = (passes.map fun e => e.after.workbook.rows.length).sum ∧
    (∀ operation kind, meters.refused operation kind =
      (start.events actions).countP fun e => e.refusal? = some (operation, kind)) ∧
    (∀ operation (rejection : Rejection), meters.refused operation rejection.kind =
      (start.events actions).countP (Event.refuses operation rejection)) ∧
    ∀ e ∈ start.events actions, e.after.meters.groups =
      if e.isSummary then some e.after.workbook.summary.length else e.before.meters.groups := by
  intro start passes meters
  have hstart : start.Sound := ⟨[], .empty⟩
  have hsound : ∀ e ∈ start.events actions, e.after.Sound :=
    forall_mem_events (fun _ h a => sound_event h a) hstart actions
  have hmetered : ∀ e ∈ start.events actions, e.Metered :=
    forall_mem_events (fun _ h a => event_metered h a) hstart actions
  have hrun : meters = (start.events actions).foldl Meters.enter .zero := meters_run hstart actions
  have hpasses : meters.passes = passes.length := by
    rw [hrun, Meters.count_foldl_enter Meters.passes (fun _ => 1) fun _ _ => rfl]
    simp [Meters.zero, passes]
  have hlabelled : meters.labelled =
      (passes.map fun e => e.after.workbook.rows.countP Row.isLabelled).sum := by
    rw [hrun, Meters.count_foldl_enter Meters.labelled
      (fun e => e.after.workbook.rows.countP Row.isLabelled) fun _ _ => rfl]
    simp [Meters.zero, passes]
  have hunlabelled : meters.unlabelled =
      (passes.map fun e => e.after.workbook.rows.countP Row.isUnlabelled).sum := by
    rw [hrun, Meters.count_foldl_enter Meters.unlabelled
      (fun e => e.after.workbook.rows.countP Row.isUnlabelled) fun _ _ => rfl]
    simp [Meters.zero, passes]
  have hrefused : ∀ operation kind, meters.refused operation kind =
      (start.events actions).countP fun e => e.refusal? = some (operation, kind) := by
    intro operation kind
    rw [Meters.refused, hrun, Meters.refusals_foldl_enter, Meters.zero, List.nil_append,
      List.count_eq_countP, List.countP_filterMap]
    apply List.countP_congr
    intro e _
    cases e.refusal? with
    | none => simp
    | some refusal => simp
  refine ⟨hpasses, hlabelled, hunlabelled, ?_, hrefused, ?_, ?_⟩
  · -- every row has a label after a pass, if only the empty one
    rw [hlabelled, hunlabelled, ← List.sum_map_add]
    apply congrArg List.sum
    apply List.map_congr_left
    intro e he
    obtain ⟨imported, hreached⟩ := hsound e (List.mem_of_mem_filter he)
    obtain ⟨before, -, hrows⟩ := hreached.settled.labelled
    rw [hrows, RuleSet.countP_isLabelled_add_countP_isUnlabelled]
  · intro operation rejection
    rw [hrefused]
    apply List.countP_congr
    intro e _
    rw [decide_eq_true_iff, Event.refusal?_eq_some_iff]
  · intro e he
    rw [hmetered e he, Meters.enter]

/-- To move what is not there is a pass, to open a file that is not there is none, and a slot that
is not there is no reason that counts. -/
example :
    (fresh.run [.change (.importRows Workbook.sold), .change (.addRule "north" "Region is North"),
      .change (.addRule " north " "Region is East"), .change (.editRule 3 "east" "Region is East"),
      .change (.moveRule 3 .up), .reopen]).meters =
      ⟨3, 2, 4, some 2, [(.add, "duplicate_name")]⟩ := by
  decide

end Session

end Rulebook
