import Rulebook.Proofs.Program.Outcome

/-!
# Running twice

A run that writes its workbook back comes to rest: where the settings that hold are the same as
before, the next run opens what was written, asks for nothing that is not there yet, and so prints
the same and writes the same again (`execute_again`). The settings that hold are the same if the
same is found at their paths (`effective_congr`). `run_again` says it of runs with arguments.
-/

set_option autoImplicit false

namespace Rulebook

open Workbook

variable {σ : Type} {host : Host (StateM σ)}

namespace Program

variable {s : WorkbookSettings} {before between : σ} {ending : Ending}

/-- The rules of the workbook that a file is opened as do not ask for labels. -/
def OpensLabelFree (file : Contents) : Prop :=
  ∀ opened, ofFile file = .ok opened → opened.rules.LabelFree

/-- A successful execution that writes back can be repeated: it ends as before and leaves the same
text. -/
theorem execute_again (hhost : host.Faithful) (hback : s.writeBack = true)
    (hfree : OpensLabelFree (host.found s.snapshotPath before))
    (hrun : (execute host s).run before = (ending, between)) (hstatus : ending.status = 0) :
    ∃ text after, (execute host s).run between = (ending, after) ∧
      host.found s.snapshotPath between = .text text ∧
      host.found s.snapshotPath after = .text text := by
  cases hproduce : produce s (host.found s.snapshotPath before) with
  | error failure =>
      obtain ⟨rfl, -⟩ := Prod.mk.inj ((execute_of_error hhost hproduce).symm.trans hrun)
      cases hstatus
  | ok wb =>
      obtain ⟨-, hwritten⟩ := write_of_execute hhost hproduce hback hrun
      obtain ⟨rfl, hwrite⟩ := hwritten hstatus
      have hfound : host.found s.snapshotPath between = .text wb.snapshot.render :=
        hhost.read_written _ _ _ _ hwrite
      have hrules : wb.rules.LabelFree := by
        obtain ⟨snap, opened, hstored, hrestore, -, rfl⟩ := produce_eq_ok_iff.1 hproduce
        exact hfree opened (ofFile_eq_ok_iff.2 ⟨snap, hstored, hrestore⟩)
      -- the text that was written leads to the workbook of which it was made
      have hsame : produce s (host.found s.snapshotPath between) = .ok wb := by
        rw [hfound]
        exact produce_render hproduce hrules
      obtain ⟨after, hrewrite⟩ : ∃ after,
          (host.write s.snapshotPath wb.snapshot.render).run between = (true, after) :=
        ⟨_, Prod.ext (hhost.write_again _ _ _ _ hwrite) rfl⟩
      refine ⟨_, after, execute_of_writing hhost hsame hback hrewrite, hfound, ?_⟩
      exact hhost.read_written _ _ _ _ hrewrite

variable {env : Environment} {line : CommandLine}

/-- The settings that hold depend on what is found at the paths of the settings. -/
theorem effective_congr (hhost : host.Faithful)
    (hsame : ∀ path ∈ settingsPaths env, host.found path between = host.found path before) :
    effective host env line between = effective host env line before := by
  obtain ⟨settings, hbefore, hbetween⟩ := agrees_loadSettings hhost hsame
  rw [effective, effective, hbefore, hbetween]

/-- Let a run with arguments write back and succeed, let the rules that were stored not ask for
labels, and let the same as before be found at the paths of the settings. Then the same run succeeds
again, prints the same, and leaves the text at the path of the snapshot as it was. -/
theorem run_again (hhost : host.Faithful) {arguments : List String}
    (hline : CommandLine.parse arguments = .ok line) (hs : effective host env line before = s)
    (hback : s.writeBack = true) (hfree : OpensLabelFree (host.found s.snapshotPath before))
    (hrun : (run host env arguments).run before = (ending, between)) (hstatus : ending.status = 0)
    (hsame : ∀ path ∈ settingsPaths env, host.found path between = host.found path before) :
    ∃ text after, (run host env arguments).run between = (ending, after) ∧
      host.found s.snapshotPath between = .text text ∧
      host.found s.snapshotPath after = .text text := by
  rw [run_eq_execute hhost env hline, hs] at hrun
  rw [run_eq_execute hhost env hline, effective_congr hhost hsame, hs]
  exact execute_again hhost hback hfree hrun hstatus

theorem run_again_shelf :
    ∃ ending between text after,
      (run Folder.host salesWanted byRegion).run shelf = (ending, between) ∧ ending.status = 0 ∧
      (run Folder.host salesWanted byRegion).run between = (ending, after) ∧
      between.read "book.json" = .text text ∧ after.read "book.json" = .text text := by
  obtain ⟨ending, between, hrun⟩ : ∃ ending between,
      (run Folder.host salesWanted byRegion).run shelf = (ending, between) :=
    ⟨_, _, (Prod.eta _).symm⟩
  obtain ⟨hending, -, hsame⟩ := run_shelf
  rw [hrun] at hending hsame
  have hstatus : ending.status = 0 := congrArg Ending.status hending
  have heffective : effective Folder.host salesWanted ⟨some "book.json", ["Region"], none, true⟩
      shelf = ⟨"book.json", ["Region"], some "Sales", true⟩ := by
    rw [effective, loadSettings_shelf]
    rfl
  have hfree : OpensLabelFree (shelf.read "book.json") := by
    intro opened hopen
    obtain ⟨snap, hstored, hrestore⟩ := ofFile_eq_ok_iff.1 hopen
    obtain rfl := Option.some.inj (stored?_shelf.symm.trans hstored)
    obtain rfl := Except.ok.inj hrestore
    exact (by decide : ∀ rule ∈ [Rule.make "north" "Region is North"],
      rule.expression.references Row.ruleColumn = false)
  obtain ⟨text, after, hagain, hbetween, hafter⟩ :=
    run_again Folder.faithful_host parse_byRegion heffective rfl hfree hrun hstatus hsame
  exact ⟨ending, between, text, after, hrun, hstatus, hagain, hbetween, hafter⟩

end Program

end Rulebook
