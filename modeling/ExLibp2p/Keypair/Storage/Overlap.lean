import ExLibp2p.Keypair.Storage.Writers

namespace ExLibp2p.Keypair.Storage

open ExLibp2p.Data

/-! What readers can find at a path that several calls write to. -/

variable {Caller : Type} [DecidableEq Caller]

abbrev Writing (Caller : Type) :=
  List (Action Caller × Option (Option File))

section Statement

variable (path : String) (bytes : Caller → Bytes) (disk : Disk)

def Whole (state : Writers Caller) (file : Option File) : Prop :=
  file.map File.content = (disk.view path).map File.content ∨
    ∃ caller, state.calls caller ≠ .opening ∧
      file.map File.content = some (bytes caller)

structure Uncorrupted (trace : Writing Caller) (state : Writers Caller) :
    Prop where
  seen : ∀ file, (.read path, some file) ∈ trace →
    Whole path bytes disk state file
  standing : Whole path bytes disk state (state.disk.view path)
  final : (∀ caller, (state.calls caller).isUnderWay = false) →
    (∃ caller result, state.calls caller = .returned result) →
      ∃ caller result, state.calls caller = .returned result ∧
        (state.disk.view path).map File.content = some (bytes caller)
  unchanged : ∀ caller reason, state.calls caller = .returned (.error reason) →
    ∀ earlier primitive output later before after,
      trace = earlier ++ (.primitive caller primitive, output) :: later →
        (writers path bytes disk).Run earlier before →
          (writers path bytes disk).step before (.primitive caller primitive) =
            some (after, output) →
              after.disk.view path = before.disk.view path

end Statement

/-- No call touches the temporary file once another one has opened it. -/
def Undivided (state : Writers Caller) : Action Caller → Prop
  | .primitive _ (.openWrite _) => True
  | .primitive _ .close => True
  | .primitive caller _ => state.opener = some caller
  | .read _ => True

instance (state : Writers Caller) (action : Action Caller) :
    Decidable (Undivided state action) :=
  match action with
  | .primitive _ (.openWrite _) => .isTrue trivial
  | .primitive _ .close => .isTrue trivial
  | .primitive caller (.write _) => decEq state.opener (some caller)
  | .primitive caller .chmod => decEq state.opener (some caller)
  | .primitive caller .rename => decEq state.opener (some caller)
  | .primitive caller .remove => decEq state.opener (some caller)
  | .read _ => .isTrue trivial

structure Orderly (path : String) (bytes : Caller → Bytes) (old : FileSystem)
    (state : Writers Caller) : Prop where
  unfailed : ∀ caller, (state.calls caller).hasFailed = false
  written : ∀ caller, state.opener = some caller →
    (state.calls caller).isUnderWay = true →
      Undisturbed path (bytes caller) state.disk (state.calls caller) ∧
        ∃ base trace, Contents base path (bytes caller) trace state.disk.view
          (state.calls caller).stage
  shown : (∃ caller, state.calls caller = .returned (.ok ()) ∧
      state.disk.view path = some (newFile (bytes caller))) ∨
    (state.disk.view path = old path ∧
      ∀ caller, state.calls caller ≠ .returned (.ok ()))

section Preservation

variable {path : String} {bytes : Caller → Bytes} {old : FileSystem}
  {state : Writers Caller} {caller : Caller} {primitive : Primitive}
  {disk : Disk} {progress : Progress}

/-- The call is about to open the temporary file, or was the last to do so. -/
def Entitled (state : Writers Caller) (caller : Caller) : Prop :=
  state.calls caller = .opening ∨ state.opener = some caller

omit [DecidableEq Caller] in
theorem Orderly.ready (orderly : Orderly path bytes old state)
    (entitled : Entitled state caller)
    (taken : advance path (bytes caller) state.disk (state.calls caller)
      primitive = some (disk, progress)) :
    Undisturbed path (bytes caller) state.disk (state.calls caller) ∧
      ∃ base trace, Contents base path (bytes caller) trace state.disk.view
        (state.calls caller).stage := by
  rcases entitled with begins | isOpener
  · rw [begins]
    exact ⟨trivial, state.disk.view, [], rfl⟩
  · cases standing : state.calls caller with
    | opening => exact ⟨trivial, state.disk.view, [], rfl⟩
    | returned result =>
        rw [standing] at taken
        cases taken
    | _ =>
        have underWay : (state.calls caller).isUnderWay = true := by
          rw [standing]
          rfl
        rw [← standing]
        exact orderly.written caller isOpener underWay

theorem opener_put (entitled : Entitled state caller)
    (taken : advance path (bytes caller) state.disk (state.calls caller)
      primitive = some (disk, progress)) :
    (state.put caller primitive disk progress).opener = some caller := by
  rcases entitled with begins | isOpener
  · rw [begins] at taken
    cases primitive with
    | openWrite mode => rfl
    | _ => cases taken
  · cases primitive with
    | openWrite mode => rfl
    | _ => exact isOpener

theorem Orderly.shown_put (orderly : Orderly path bytes old state)
    (unreturned : ∀ result, state.calls caller ≠ .returned result)
    (shows : progress = .returned (.ok ()) ∧
        disk.view path = some (newFile (bytes caller)) ∨
      progress ≠ .returned (.ok ()) ∧
        disk.view path = state.disk.view path) :
    (∃ each, (state.put caller primitive disk progress).calls each =
        .returned (.ok ()) ∧ disk.view path = some (newFile (bytes each))) ∨
      (disk.view path = old path ∧ ∀ each,
        (state.put caller primitive disk progress).calls each ≠
          .returned (.ok ())) := by
  rcases shows with ⟨returned, found⟩ | ⟨unfinished, same⟩
  · exact .inl ⟨caller, (state.calls_put_self ..).trans returned, found⟩
  · rw [same]
    rcases orderly.shown with ⟨done, isDone, found⟩ | ⟨untouched, none⟩
    · have different : done ≠ caller := by
        intro isCaller
        exact unreturned _ (isCaller ▸ isDone)
      exact .inl
        ⟨done, (state.calls_put_ne _ _ _ different).trans isDone, found⟩
    · refine .inr ⟨untouched, ?_⟩
      intro each isDone
      by_cases isCaller : each = caller
      · subst isCaller
        exact unfinished ((state.calls_put_self ..).symm.trans isDone)
      · exact none each
          ((state.calls_put_ne _ _ _ isCaller).symm.trans isDone)

theorem unreturned_of_advance {call : Progress} {given : Bytes}
    {result : Disk × Progress}
    (taken : advance path given disk call primitive = some result)
    (value : Except String Unit) : call ≠ .returned value := by
  rintro rfl
  cases taken

theorem unfailed_put (orderly : Orderly path bytes old state)
    (unfailed : progress.hasFailed = false) (each : Caller) :
    ((state.put caller primitive disk progress).calls each).hasFailed =
      false := by
  by_cases same : each = caller
  · subst same
    rw [state.calls_put_self]
    exact unfailed
  · rw [state.calls_put_ne _ _ _ same]
    exact orderly.unfailed each

theorem Orderly.advanced (orderly : Orderly path bytes old state)
    (entitled : Entitled state caller)
    (taken : advance path (bytes caller) state.disk (state.calls caller)
      primitive = some (disk, progress)) :
    Orderly path bytes old (state.put caller primitive disk progress) := by
  obtain ⟨undisturbed, base, trace, contents⟩ := orderly.ready entitled taken
  obtain ⟨⟨input, output, steps⟩, stays, unfailed⟩ :=
    step_of_advance (orderly.unfailed caller) undisturbed contents taken
  have continued : Contents base path (bytes caller)
      (trace ++ [(input, output)]) disk.view progress.stage :=
    contents.move (.of_step steps)
  have unreturned := unreturned_of_advance taken
  have before : state.disk.view path = base path :=
    contents.before_return fun result same =>
      unreturned result (Progress.stage_eq_returned same)
  refine
    { unfailed := unfailed_put orderly unfailed
      written := ?_
      shown := orderly.shown_put unreturned ?_ }
  · intro each isOpener underWay
    obtain rfl := Option.some.inj
      (isOpener.symm.trans (opener_put entitled taken))
    rw [state.calls_put_self]
    exact ⟨stays, base, _, continued⟩
  · by_cases returned : ∃ result, progress = .returned result
    · obtain ⟨result, rfl⟩ := returned
      cases result with
      | error reason => cases unfailed
      | ok => exact .inl ⟨rfl, continued.1⟩
    · refine .inr ⟨fun isDone => returned ⟨_, isDone⟩, ?_⟩
      rw [before]
      exact continued.before_return fun result same =>
        returned ⟨result, Progress.stage_eq_returned same⟩

theorem Orderly.closed (orderly : Orderly path bytes old state)
    (overtaken : state.opener ≠ some caller)
    (taken : advance path (bytes caller) state.disk (state.calls caller)
      .close = some (disk, progress)) :
    Orderly path bytes old (state.put caller .close disk progress) := by
  have closes : disk = state.disk ∧ progress = .chmodding := by
    cases standing : state.calls caller with
    | appending inode position remaining =>
        rw [standing] at taken
        cases remaining with
        | nil =>
            cases taken
            exact ⟨rfl, rfl⟩
        | cons byte rest => cases taken
    | _ =>
        rw [standing] at taken
        cases taken
  have unreturned := unreturned_of_advance taken
  obtain ⟨rfl, rfl⟩ := closes
  refine
    { unfailed := unfailed_put orderly rfl
      written := ?_
      shown := orderly.shown_put unreturned (.inr ⟨nofun, rfl⟩) }
  intro each isOpener underWay
  have different : each ≠ caller := by
    rintro rfl
    exact overtaken isOpener
  rw [state.calls_put_ne _ _ _ different] at underWay ⊢
  exact orderly.written each isOpener underWay

end Preservation

section Runs

variable {path : String} {bytes : Caller → Bytes} {disk : Disk}
  {trace : Writing Caller} {state next : Writers Caller}
  {action : Action Caller} {output : Option (Option File)}

theorem Orderly.init :
    Orderly path bytes disk.view (writers path bytes disk).init where
  unfailed := fun _ => rfl
  written := by
    intro caller impossible
    cases impossible
  shown := by
    refine .inr ⟨rfl, ?_⟩
    intro caller impossible
    cases impossible

theorem Orderly.preserved (orderly : Orderly path bytes disk.view state)
    (undivided : Undivided state action)
    (taken : (writers path bytes disk).step state action =
      some (next, output)) :
    Orderly path bytes disk.view next := by
  cases action with
  | read other =>
      cases taken
      exact orderly
  | primitive caller primitive =>
      obtain ⟨⟨after, progress⟩, advanced, same⟩ :=
        Option.map_eq_some_iff.mp taken
      cases same
      cases primitive with
      | openWrite mode =>
          have begins : state.calls caller = .opening := by
            cases standing : state.calls caller with
            | opening => rfl
            | _ =>
                rw [standing] at advanced
                cases advanced
          exact orderly.advanced (.inl begins) advanced
      | close =>
          by_cases isOpener : state.opener = some caller
          · exact orderly.advanced (.inr isOpener) advanced
          · exact orderly.closed isOpener advanced
      | _ => exact orderly.advanced (.inr undivided) advanced

theorem returned_stays {result : Except String Unit} {caller : Caller}
    (returned : state.calls caller = .returned result)
    (taken : (writers path bytes disk).step state action =
      some (next, output)) :
    next.calls caller = .returned result := by
  cases action with
  | read other =>
      cases taken
      exact returned
  | primitive mover primitive =>
      obtain ⟨⟨after, progress⟩, advanced, same⟩ :=
        Option.map_eq_some_iff.mp taken
      cases same
      have different : caller ≠ mover := by
        rintro rfl
        exact unreturned_of_advance advanced _ returned
      exact (state.calls_put_ne _ _ _ different).trans returned

omit [DecidableEq Caller] in
/-- What stands at the path is still whole when more calls have begun. -/
theorem Orderly.whole (orderly : Orderly path bytes disk.view state)
    (stays : ∀ caller result, state.calls caller = .returned result →
      next.calls caller = .returned result) :
    Whole path bytes disk next (state.disk.view path) := by
  rcases orderly.shown with ⟨caller, returned, found⟩ | ⟨untouched, -⟩
  · refine .inr ⟨caller, ?_, by rw [found]; rfl⟩
    rw [stays caller _ returned]
    intro impossible
    cases impossible
  · left
    rw [untouched]

theorem Orderly.of_run
    (run : ((writers path bytes disk).guard Undivided).Run trace state) :
    Orderly path bytes disk.view state := by
  apply run.invariant fun _ state => Orderly path bytes disk.view state
  · exact .init
  · intro trace state action next output _ orderly taken
    obtain ⟨undivided, taken⟩ := Machine.guard_step.mp taken
    exact orderly.preserved undivided taken

theorem Orderly.seen
    (run : ((writers path bytes disk).guard Undivided).Run trace state)
    {file : Option File} (read : (.read path, some file) ∈ trace) :
    Whole path bytes disk state file := by
  obtain ⟨earlier, later, rfl⟩ := List.append_of_mem read
  obtain ⟨before, after, reached, taken, -, steps⟩ := run.step_of_mem
  obtain ⟨-, taken⟩ := Machine.guard_step.mp taken
  cases taken
  apply (Orderly.of_run reached).whole
  intro caller result
  apply steps.keeps fun state => state.calls caller = .returned result
  intro state action next output returned taken
  exact returned_stays returned (Machine.guard_step.mp taken).2

/-- Calls that leave the temporary file to whoever opened it last do not corrupt
each other. -/
theorem uncorrupted_of_undivided
    (run : ((writers path bytes disk).guard Undivided).Run trace state) :
    Uncorrupted path bytes disk trace state := by
  have orderly := Orderly.of_run run
  refine
    { seen := fun _ => Orderly.seen run
      standing := orderly.whole fun _ _ => id
      final := ?_
      unchanged := ?_ }
  · rintro - ⟨caller, result, returned⟩
    have unfailed := orderly.unfailed caller
    rw [returned] at unfailed
    cases result with
    | error reason => cases unfailed
    | ok =>
        rcases orderly.shown with ⟨last, isDone, found⟩ | ⟨-, none⟩
        · exact ⟨last, _, isDone, by rw [found]; rfl⟩
        · exact absurd returned (none caller)
  · intro caller reason returned
    have unfailed := orderly.unfailed caller
    rw [returned] at unfailed
    cases unfailed

end Runs

def savedKey : Disk :=
  Disk.empty.create "node.key" { content := [9], mode := 0o600 }

def newKeys : Bool → Bytes
  | true => [1, 2, 3]
  | false => [4, 5]

/-- The first call is overtaken when it has written all its bytes, and then
only closes its file. -/
def overtaken : List (Action Bool) :=
  [.primitive true (.openWrite 0o644), .primitive true (.write 2),
    .read "node.key", .primitive true (.write 1),
    .primitive false (.openWrite 0o644), .primitive false (.write 1),
    .primitive true .close, .read "node.key", .primitive false (.write 1),
    .primitive false .close, .read "node.key", .primitive false .chmod,
    .primitive false .rename, .read "node.key"]

theorem uncorrupted_overtaken :
    ∃ trace state,
      ((writers "node.key" newKeys savedKey).guard Undivided).Run trace state ∧
      trace.map Prod.fst = overtaken ∧
      Uncorrupted "node.key" newKeys savedKey trace state := by
  obtain ⟨trace, state, -, run, inputs⟩ := Machine.exists_run_of_start
    (by decide : (((writers "node.key" newKeys savedKey).guard
      Undivided).start overtaken).isSome)
  exact ⟨trace, state, run, inputs, uncorrupted_of_undivided run⟩

def tornFile : File where
  content := [4]
  mode := 0o600

/-- The second call truncates the file that the first one then renames, and
goes on writing to it at its new path. -/
def interference : Writing Bool :=
  [(.primitive true (.openWrite 0o644), none),
    (.primitive true (.write 3), none), (.primitive true .close, none),
    (.primitive true .chmod, none),
    (.primitive false (.openWrite 0o644), none),
    (.primitive true .rename, none),
    (.read "node.key", some (some { content := [], mode := 0o600 })),
    (.primitive false (.write 1), none), (.read "node.key", some tornFile),
    (.primitive false (.write 1), none), (.primitive false .close, none),
    (.primitive false .chmod, none), (.primitive false .remove, none)]

theorem overlapping_corrupts :
    ∃ state,
      (writers "node.key" newKeys savedKey).Run interference state ∧
      ¬Uncorrupted "node.key" newKeys savedKey interference state := by
  obtain ⟨trace, state, started, run, inputs⟩ := Machine.exists_run_of_start
    (by decide : ((writers "node.key" newKeys savedKey).start
      (interference.map Prod.fst)).isSome)
  have outputs : ((writers "node.key" newKeys savedKey).start
      (interference.map Prod.fst)).map (fun result => result.1.map Prod.snd) =
        some (interference.map Prod.snd) := by
    decide
  rw [started, Option.map_some, Option.some.injEq] at outputs
  obtain rfl : trace = interference := by
    rw [List.zip_of_prod inputs outputs]
    rfl
  refine ⟨state, run, ?_⟩
  intro uncorrupted
  have read : (.read "node.key", some (some tornFile)) ∈ interference := by
    simp [interference]
  rcases uncorrupted.seen (some tornFile) read with same | ⟨caller, -, same⟩
  · revert same
    decide
  · revert same
    cases caller with
    | false => decide
    | true => decide

end ExLibp2p.Keypair.Storage
