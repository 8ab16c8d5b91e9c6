import SourceosBoot.Tools.ManifestDeclarations

set_option autoImplicit false

-- The check passes where the list of known debt is exactly the debt there is. Over the commits that
-- pass it, debt is only paid.

namespace SourceosBoot.Tools

open Python

theorem forM_run {α σ : Type} (items : List α) (say : α → Effect σ Unit)
    (after : List α → σ → σ) (silent : ∀ state, after [] state = state)
    (said : ∀ item rest state, ∃ middle, (say item).run state = .ok () middle ∧
      after rest middle = after (item :: rest) state) (state : σ) :
    (items.forM say).run state = .ok () (after items state) := by
  induction items generalizing state with
  | nil => simp [EStateM.run_pure, silent]
  | cons item rest ih =>
    obtain ⟨middle, first, later⟩ := said item rest state
    change (say item >>= fun _ => rest.forM say).run state = _
    rw [run_then first, ih, later]

theorem forM_print (items : List String) (line : String → String) (printed : Printed) :
    (items.forM fun item => print (line item)).run printed =
      .ok () { printed with stdout := printed.stdout ++ items.map line } :=
  forM_run items (fun item => print (line item))
    (fun items printed => { printed with stdout := printed.stdout ++ items.map line })
    (by simp) (fun item rest printed => ⟨_, rfl, by simp⟩) printed

theorem forM_printError (items : List String) (line : String → String) (printed : Printed) :
    (items.forM fun item => printError (line item)).run printed =
      .ok () { printed with stderr := printed.stderr ++ items.map line } :=
  forM_run items (fun item => printError (line item))
    (fun items printed => { printed with stderr := printed.stderr ++ items.map line })
    (by simp) (fun item rest printed => ⟨_, rfl, by simp⟩) printed

theorem conclude_run (tally : Tally) (missing : List String) (printed : Printed) :
    ∃ shown, (conclude tally missing).run printed =
        .ok (if missing = [] then 0 else 1) shown ∧
      (shown.stderr = printed.stderr ↔ missing = []) := by
  rw [conclude]
  by_cases quiet : missing = []
  · rw [if_neg (not_not.mpr quiet)]
    simp only [quiet, if_true, iff_true]
    split <;> exact ⟨_, rfl, rfl⟩
  · rw [if_pos quiet, if_neg quiet]
    have counted (line : String) : (printError line).run printed =
      .ok () { printed with stderr := printed.stderr ++ [line] } := rfl
    rw [run_then (counted _), run_then (forM_printError _ _ _)]
    exact ⟨_, rfl, by simp [quiet]⟩

theorem operand_ok (item : Json) (text : String) : operand item = .ok text ↔ item = .str text := by
  cases item <;> simp [operand, raise]

theorem mapM_operand (items : List Json) (texts : List String) :
    items.mapM operand = .ok texts ↔ items = texts.map .str := by
  rw [mapM_ok]
  simp only [operand_ok]
  rw [← List.forall₂_eq_eq_eq, List.forall₂_map_right_iff]

structure Declares (manifest : Json) (auditEvents dangerousSurfaces : List String) : Prop where
  auditEvents : declarations manifest "auditEvents" = .ok (auditEvents.map .str)
  dangerousSurfaces : declarations manifest "dangerousSurfaces" = .ok (dangerousSurfaces.map .str)

section Known

variable (known : List String) (blob : String)

theorem tallyKey_ok (manifest : Json) (key : String) (tally later : Tally) :
    tallyKey known blob manifest tally key = .ok later ↔
      ∃ texts : List String, declarations manifest key = .ok (texts.map .str) ∧
        later = texts.foldl (Tally.add known blob key) tally := by
  have step_ok (item : Json) (tally next : Tally) :
      (do return tally.add known blob key (← operand item) : Except Raised Tally) = .ok next ↔
        ∃ text, item = .str text ∧ next = tally.add known blob key text := by
    simp only [bind_ok, operand_ok, pure, Except.pure, Except.ok.injEq]
    exact exists_congr fun _ => and_congr_right fun _ => eq_comm
  have folded (items : List Json) (tally : Tally) :
      items.foldlM (fun tally item => do return tally.add known blob key (← operand item)) tally =
        .ok later ↔ ∃ texts : List String, items = texts.map .str ∧
          later = texts.foldl (Tally.add known blob key) tally := by
    induction items generalizing tally with
    | nil => simp [pure, Except.pure, eq_comm]
    | cons item rest ih =>
      simp only [List.foldlM_cons, bind_ok _ _ later, step_ok, ih]
      constructor
      · rintro ⟨_, ⟨text, rfl, rfl⟩, texts, rfl, rfl⟩
        exact ⟨text :: texts, rfl, rfl⟩
      · rintro ⟨_ | ⟨text, texts⟩, split, rfl⟩
        · cases split
        · obtain ⟨rfl, rfl⟩ := List.cons.inj split
          exact ⟨_, ⟨text, rfl, rfl⟩, texts, rfl, rfl⟩
  simp only [tallyKey, bind_ok, folded]
  constructor
  · rintro ⟨_, read, texts, rfl, rfl⟩
    exact ⟨texts, read, rfl⟩
  · rintro ⟨texts, read, rfl⟩
    exact ⟨_, read, texts, rfl, rfl⟩

def tallyOf (auditEvents dangerousSurfaces : List String) : Tally :=
  dangerousSurfaces.foldl (Tally.add known blob "dangerousSurfaces")
    (auditEvents.foldl (Tally.add known blob "auditEvents") {})

theorem tallied_ok (manifest : Json) (tally : Tally) :
    tallied known blob manifest = .ok tally ↔ ∃ auditEvents dangerousSurfaces,
      Declares manifest auditEvents dangerousSurfaces ∧
        tally = tallyOf known blob auditEvents dangerousSurfaces := by
  simp only [tallied, checkedKeys, List.foldlM_cons, List.foldlM_nil, bind_ok, tallyKey_ok, pure,
    Except.pure, Except.ok.injEq]
  constructor
  · rintro ⟨_, ⟨auditEvents, first, rfl⟩, _, ⟨dangerousSurfaces, second, rfl⟩, rfl⟩
    exact ⟨auditEvents, dangerousSurfaces, ⟨first, second⟩, rfl⟩
  · rintro ⟨auditEvents, dangerousSurfaces, ⟨first, second⟩, rfl⟩
    exact ⟨_, ⟨auditEvents, first, rfl⟩, _, ⟨dangerousSurfaces, second, rfl⟩, rfl⟩

omit known blob in
theorem declared_ok (manifest : Json) (items : List String) :
    declared manifest = .ok items ↔ ∃ auditEvents dangerousSurfaces,
      Declares manifest auditEvents dangerousSurfaces ∧
        items = auditEvents ++ dangerousSurfaces := by
  simp only [declared, checkedKeys, List.mapM_cons, List.mapM_nil, bind_ok, mapM_operand, pure,
    Except.pure, Except.ok.injEq]
  constructor
  · rintro ⟨_, ⟨auditEvents, ⟨_, first, rfl⟩, _, ⟨dangerousSurfaces, ⟨_, second, rfl⟩, _, rfl, rfl⟩,
      rfl⟩, rfl⟩
    exact ⟨auditEvents, dangerousSurfaces, ⟨first, second⟩, by simp⟩
  · rintro ⟨auditEvents, dangerousSurfaces, ⟨first, second⟩, rfl⟩
    exact ⟨_, ⟨auditEvents, ⟨_, first, rfl⟩, _, ⟨dangerousSurfaces, ⟨_, second, rfl⟩, _, rfl, rfl⟩,
      rfl⟩, by simp⟩

theorem foldl_missing (key : String) (texts : List String) (tally : Tally) :
    (texts.foldl (Tally.add known blob key) tally).missing = [] ↔
      tally.missing = [] ∧ ∀ item ∈ texts, occursIn item blob = true ∨ item ∈ known := by
  induction texts generalizing tally with
  | nil => simp
  | cons item rest ih =>
    rw [List.foldl_cons, ih, List.forall_mem_cons]
    by_cases found : occursIn item blob = true
    · simp [Tally.add, found]
    · by_cases listed : item ∈ known <;> simp [Tally.add, found, listed]

omit blob in
theorem sorted_filter_nil (wanted : String → Bool) :
    sorted id (known.filter wanted) = [] ↔ ∀ item ∈ known, wanted item = false := by
  rw [List.eq_nil_iff_forall_not_mem]
  simp only [mem_sorted, List.mem_filter, not_and, Bool.not_eq_true]

def complaints (auditEvents dangerousSurfaces : List String) : List String :=
  (tallyOf known blob auditEvents dangerousSurfaces).missing ++
    undeclared known (auditEvents ++ dangerousSurfaces) ++ outlived known blob

theorem complaints_nil (auditEvents dangerousSurfaces : List String) :
    complaints known blob auditEvents dangerousSurfaces = [] ↔
      ∀ item, item ∈ known ↔
        item ∈ auditEvents ++ dangerousSurfaces ∧ occursIn item blob = false := by
  have undeclared_nil : undeclared known (auditEvents ++ dangerousSurfaces) = [] ↔
      ∀ item ∈ known, item ∈ auditEvents ++ dangerousSurfaces := by
    rw [undeclared, List.map_eq_nil_iff, sorted_filter_nil]
    simp only [decide_eq_false_iff_not, not_not]
  have outlived_nil : outlived known blob = [] ↔ ∀ item ∈ known, occursIn item blob = false := by
    rw [outlived, List.map_eq_nil_iff, sorted_filter_nil]
  simp only [complaints, List.append_eq_nil_iff, undeclared_nil, outlived_nil, tallyOf,
    foldl_missing]
  constructor
  · rintro ⟨⟨⟨⟨_, events⟩, surfaces⟩, listed⟩, unfound⟩ item
    refine ⟨fun known => ⟨listed item known, unfound item known⟩, fun ⟨declared, absent⟩ => ?_⟩
    rcases List.mem_append.mp declared with event | surface
    · simpa [absent] using events item event
    · simpa [absent] using surfaces item surface
  · intro exact
    have kept (item : String) (declared : item ∈ auditEvents ++ dangerousSurfaces) :
        occursIn item blob = true ∨ item ∈ known := by
      cases absent : occursIn item blob with
      | true => exact .inl rfl
      | false => exact .inr ((exact item).mpr ⟨declared, absent⟩)
    exact ⟨⟨⟨⟨trivial, fun item event => kept item (List.mem_append_left _ event)⟩,
      fun item surface => kept item (List.mem_append_right _ surface)⟩,
      fun item known => ((exact item).mp known).1⟩, fun item known => ((exact item).mp known).2⟩

end Known

section Main

variable {known : List String} {repository : Repository} {manifest : Json} {blob : String}
  {auditEvents dangerousSurfaces : List String}

theorem main_run (there : repository.manifest = some manifest)
    (joined : sourceBlob repository = .ok blob)
    (declares : Declares manifest auditEvents dangerousSurfaces) (printed : Printed) :
    ∃ shown, (mainWith known repository).run printed =
        .ok (if complaints known blob auditEvents dangerousSurfaces = [] then 0 else 1) shown ∧
      (shown.stderr = printed.stderr ↔
        complaints known blob auditEvents dangerousSurfaces = []) := by
  have counted := (tallied_ok known blob manifest _).mpr ⟨auditEvents, dangerousSurfaces, declares,
    rfl⟩
  have listed := (declared_ok manifest _).mpr ⟨auditEvents, dangerousSurfaces, declares, rfl⟩
  unfold mainWith
  rw [there]
  simp only
  rw [ask_then (fun _ => sourceBlob repository) _ _ joined,
    ask_then (fun _ => tallied known blob manifest) _ _ counted, run_then (forM_print _ _ _),
    run_then (forM_print _ _ _), ask_then (fun _ => declared manifest) _ _ listed]
  exact conclude_run _ (complaints known blob auditEvents dangerousSurfaces) _

theorem main_read {printed shown : Printed} {code : Int} (there : repository.manifest = some manifest)
    (ran : (mainWith known repository).run printed = .ok code shown) :
    ∃ blob auditEvents dangerousSurfaces, sourceBlob repository = .ok blob ∧
      Declares manifest auditEvents dangerousSurfaces := by
  unfold mainWith at ran
  rw [there] at ran
  simp only [ask_then_ok] at ran
  obtain ⟨blob, joined, tally, counted, _⟩ := ran
  obtain ⟨auditEvents, dangerousSurfaces, declares, _⟩ := (tallied_ok known blob manifest _).mp counted
  exact ⟨blob, auditEvents, dangerousSurfaces, joined, declares⟩

end Main

def IsDebt (repository : Repository) (manifest : Json) (known : List String) : Prop :=
  ∃ blob items, sourceBlob repository = .ok blob ∧ declared manifest = .ok items ∧
    ∀ item, item ∈ known ↔ item ∈ items ∧ occursIn item blob = false

theorem main_absent {known : List String} {repository : Repository}
    (absent : repository.manifest = none) (printed : Printed) :
    (mainWith known repository).run printed = .ok 0 { printed with
      stdout := printed.stdout ++ ["no manifest at .sourceos/manifest.json; nothing to check"] } := by
  unfold mainWith
  rw [absent]
  rfl

theorem main_passes_iff {known : List String} {repository : Repository} {manifest : Json}
    (there : repository.manifest = some manifest) (printed : Printed) :
    (∃ shown, (mainWith known repository).run printed = .ok 0 shown) ↔
      IsDebt repository manifest known := by
  constructor
  · rintro ⟨_, ran⟩
    obtain ⟨blob, auditEvents, dangerousSurfaces, joined, declares⟩ := main_read there ran
    obtain ⟨_, ended, _⟩ := @main_run known repository manifest blob _ _ there joined declares printed
    cases quiet : complaints known blob auditEvents dangerousSurfaces with
    | nil =>
      exact ⟨blob, _, joined, (declared_ok manifest _).mpr ⟨_, _, declares, rfl⟩,
        (complaints_nil known blob _ _).mp quiet⟩
    | cons _ _ =>
      rw [quiet] at ended
      cases ran.symm.trans ended
  · rintro ⟨blob, items, joined, listed, agrees⟩
    obtain ⟨auditEvents, dangerousSurfaces, declares, rfl⟩ := (declared_ok manifest _).mp listed
    obtain ⟨shown, ended, _⟩ :=
      @main_run known repository manifest blob _ _ there joined declares printed
    rw [if_pos ((complaints_nil known blob _ _).mpr agrees)] at ended
    exact ⟨shown, ended⟩

theorem main_answers {known : List String} {repository : Repository} {printed shown : Printed}
    {code : Int} (ran : (mainWith known repository).run printed = .ok code shown) :
    code = 0 ∧ shown.stderr = printed.stderr ∨ code = 1 ∧ shown.stderr ≠ printed.stderr := by
  cases there : repository.manifest with
  | none =>
    cases (main_absent there printed).symm.trans ran
    exact .inl ⟨rfl, rfl⟩
  | some manifest =>
    obtain ⟨blob, auditEvents, dangerousSurfaces, joined, declares⟩ := main_read there ran
    obtain ⟨_, ended, quiet⟩ :=
      @main_run known repository manifest blob _ _ there joined declares printed
    cases ran.symm.trans ended
    by_cases silent : complaints known blob auditEvents dangerousSurfaces = []
    · exact .inl ⟨if_pos silent, quiet.mpr silent⟩
    · exact .inr ⟨if_neg silent, quiet.not.mpr silent⟩

/--
The check passes exactly where there is no manifest or the list of known debt is
the debt, and it says something on the error stream exactly where it fails.
-/
theorem ratchet_exact (known : List String) (repository : Repository) (printed : Printed) :
    ((∃ shown, (mainWith known repository).run printed = .ok 0 shown) ↔
      ∀ manifest, repository.manifest = some manifest → IsDebt repository manifest known) ∧
    ∀ code shown, (mainWith known repository).run printed = .ok code shown →
      code = 0 ∧ shown.stderr = printed.stderr ∨ code = 1 ∧ shown.stderr ≠ printed.stderr := by
  refine ⟨?_, fun code shown => main_answers⟩
  cases there : repository.manifest with
  | none => exact iff_of_true ⟨_, main_absent there printed⟩ (by simp)
  | some manifest => simp [main_passes_iff there printed]

def Implements (repository : Repository) (item : String) : Prop :=
  ∃ files, repository.lsFiles = .ok files ∧ ∃ path ∈ split files, path ∉ excluded ∧
    ∃ text, repository.readText path = some text ∧ occursIn item text = true

structure Line (item : String) : Prop where
  nonempty : item ≠ ""
  unbroken : '\n' ∉ item.toList

theorem found_iff_implements (repository : Repository) (blob item : String) (line : Line item)
    (joined : sourceBlob repository = .ok blob) :
    occursIn item blob = true ↔ Implements repository item := by
  obtain ⟨files, listed, built⟩ := (bind_ok _ _ _).mp joined
  cases built
  rw [occursIn_lines line.nonempty line.unbroken]
  simp only [List.mem_filterMap, List.mem_filter, decide_eq_true_eq]
  constructor
  · rintro ⟨text, ⟨path, ⟨tracked, counted⟩, read⟩, found⟩
    exact ⟨files, listed, path, tracked, counted, text, read, found⟩
  · rintro ⟨others, again, path, tracked, counted, text, read, found⟩
    cases listed.symm.trans again
    exact ⟨text, ⟨path, ⟨tracked, counted⟩, read⟩, found⟩

structure Commit where
  known : List String
  repository : Repository
  manifest : Json
  there : repository.manifest = some manifest

namespace Commit

def Declares (commit : Commit) (item : String) : Prop :=
  ∃ items, declared commit.manifest = .ok items ∧ item ∈ items

def Passes (commit : Commit) : Prop :=
  ∃ shown, (mainWith commit.known commit.repository).run {} = .ok 0 shown

theorem Passes.known_iff {commit : Commit} (passes : commit.Passes) {item : String}
    (line : Line item) :
    item ∈ commit.known ↔ commit.Declares item ∧ ¬ Implements commit.repository item := by
  obtain ⟨blob, items, joined, listed, agrees⟩ :=
    (main_passes_iff commit.there {}).mp passes
  rw [agrees, ← found_iff_implements commit.repository blob item line joined, Bool.not_eq_true]
  refine and_congr_left fun _ => ⟨fun member => ⟨items, listed, member⟩, ?_⟩
  rintro ⟨others, again, member⟩
  cases listed.symm.trans again
  exact member

end Commit

/--
Over commits that pass the check and never add to the list: whatever a later one
declares it keeps, unless an earlier one has declared and not kept it already.
-/
theorem debt_never_grows (history : List Commit) (passing : ∀ commit ∈ history, commit.Passes)
    (shrinks : history.IsChain fun before after => after.known ⊆ before.known) :
    history.Pairwise fun earlier later => ∀ item, Line item → later.Declares item →
      (earlier.Declares item → Implements earlier.repository item) →
      Implements later.repository item := by
  have trans : Trans (fun before after : Commit => after.known ⊆ before.known)
      (fun before after : Commit => after.known ⊆ before.known)
      (fun before after : Commit => after.known ⊆ before.known) :=
    ⟨fun front back => List.Subset.trans back front⟩
  have shrunk := List.isChain_iff_pairwise.mp shrinks
  refine (List.Pairwise.and_mem.mp shrunk).imp ?_
  rintro earlier later ⟨first, second, kept⟩ item line declares honoured
  by_contra missing
  have owed := ((passing later second).known_iff line).mpr ⟨declares, missing⟩
  have ⟨promised, unkept⟩ := ((passing earlier first).known_iff line).mp (kept owed)
  exact unkept (honoured promised)

-- One source, and one of the two events of the manifest is not in it yet.
def demoRepository (source : String) : Repository where
  manifest := some (.obj [
    ("auditEvents", .arr [.str "boot.rollback.planned", .str "boot.rollback.applied"]),
    ("dangerousSurfaces", .arr [])])
  lsFiles := .ok "src/cli.py\ntools/validate_manifest_declarations.py\n"
  readText := fun path => if path = "src/cli.py" then some source else none

def demoCommit (source : String) (known : List String) : Commit where
  known
  repository := demoRepository source
  manifest := _
  there := rfl

def demoHistory : List Commit := [
  demoCommit "emit boot.rollback.planned" ["boot.rollback.applied"],
  demoCommit "emit boot.rollback.planned, boot.rollback.applied" []]

theorem debt_never_grows_demo :
    demoHistory.Pairwise fun earlier later => ∀ item, Line item → later.Declares item →
      (earlier.Declares item → Implements earlier.repository item) →
      Implements later.repository item :=
  debt_never_grows demoHistory
    (by
      intro commit listed
      rcases List.mem_pair.mp listed with rfl | rfl <;> exact ⟨_, rfl⟩)
    (by simp [demoHistory, demoCommit])

end SourceosBoot.Tools
