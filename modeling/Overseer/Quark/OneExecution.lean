import Overseer.Quark.Accepted
import Overseer.Quark.ReservationDiscipline
import Overseer.Library.Chronicle

/-! # One execution for each slice

A slice is named by its item and its generation. Where an id is registered once and a cycle
selects no two slices of one item, the executor gets each slice once, for an item that can be
served; generations only go up, and what a checkpoint has written stays.
-/
namespace Overseer.Quark
open Overseer.Library Overseer.Agent

namespace OneExecution
open Overseer.Quark.Cycle

/-! ### What commits and starts have to satisfy -/

/-- No generation goes back, and a slice that has its checkpoint stays as it is. -/
structure Grows (s s' : QuarkStore) : Prop where
  generations : ∀ workId row, s.work.get? workId = some row → ∃ row', s'.work.get? workId = some row' ∧ row.generation ≤ row'.generation
  checkpoints : ∀ workId generation slice, s.slices workId generation = some slice → slice.checkpointedAt ≠ none →
    s'.slices workId generation = some slice

/-- The row of the allocation, which can be served, is reserved for a later generation. -/
def Reserves (a : WorkAllocation) (s s' : QuarkStore) : Prop :=
  ∃ row row', s.work.get? a.workId = some row ∧ s'.work.get? a.workId = some row' ∧ row.state ∈ eligibleStates ∧
    row.generation < a.generation ∧ row'.generation = a.generation ∧ row'.state = .running

/-- A slice is started for the row that was reserved for it. -/
def Starts (s : QuarkStore) (item : AgentWorkItem) (a : WorkAllocation) : Prop :=
  item.id = a.workId ∧ item.state ∈ eligibleStates ∧ item.generation < a.generation ∧
    ∃ row, s.work.get? a.workId = some row ∧ row.generation = a.generation ∧ row.state = .running

def CommitFine (s : QuarkStore) (held : Held) (s' : QuarkStore) : Prop := Grows s s' ∧ ∀ a, held = .reserving a → Reserves a s s'

def AskedFine (s : QuarkStore) (q : QuarkQuery) : Prop := ∀ item a prompt, q = .runSlice item a prompt → Starts s item a

/-- The item and the generation that a slice is started for. -/
def slice? : QuarkQuery → Option (String × ℕ)
  | .runSlice item a _ => some (item.id,a.generation)
  | _ => none

/-- An id is registered once, and a cycle selects no two slices of an item. -/
def Allowed (s : QuarkStore) : Held → QuarkStore → Prop
  | .registering workId, _ => s.work.get? workId = none
  | .planning p, _ => ((p.selected s).map (·.workId)).Nodup
  | _, _ => True

/-- The slice of this generation, if there is one, has no checkpoint. -/
def Unchecked (s : QuarkStore) (workId : String) (generation : ℕ) : Prop :=
  ∀ slice, s.slices workId generation = some slice → slice.checkpointedAt = none

/-- The slices are of generations that the rows have reached. -/
def Known (s : QuarkStore) : Prop := ∀ workId generation slice, s.slices workId generation = some slice →
  ∃ row, s.work.get? workId = some row ∧ generation ≤ row.generation

structure Sound (s : QuarkStore) : Prop where
  known : Known s
  running : ∀ workId row, s.work.get? workId = some row → row.state = .running → Unchecked s workId row.generation

structure Ok (started : List (String × ℕ)) (s : QuarkStore) : Prop where
  once : started.Nodup
  past : ∀ k ∈ started, ∃ row, s.work.get? k.1 = some row ∧ k.2 ≤ row.generation
  sound : Sound s

def chronicle : Chronicle QuarkStore Held QuarkAnswer (String × ℕ) := ⟨Allowed,slice?,Ok,CommitFine,AskedFine⟩

/-! ### Writes -/

theorem Grows.refl (s : QuarkStore) : Grows s s := ⟨fun _ row h => ⟨row,h,le_rfl⟩,fun _ _ _ h _ => h⟩

theorem Grows.trans {s t u : QuarkStore} (h : Grows s t) (h' : Grows t u) : Grows s u := by
  refine ⟨fun workId row hrow => ?_,fun workId g slice hslice hchecked => ?_⟩
  · obtain ⟨row',hrow',hle⟩ := h.generations workId row hrow
    obtain ⟨row'',hrow'',hle'⟩ := h'.generations workId row' hrow'
    exact ⟨row'',hrow'',hle.trans hle'⟩
  · exact h'.checkpoints workId g slice (h.checkpoints workId g slice hslice hchecked) hchecked

theorem Ok.grows {started : List (String × ℕ)} {s s' : QuarkStore} (h : Ok started s) (hgrows : Grows s s') (hs : Sound s') :
    Ok started s' := by
  refine ⟨h.once,fun k hk => ?_,hs⟩
  obtain ⟨row,hrow,hle⟩ := h.past k hk
  obtain ⟨row',hrow',hle'⟩ := hgrows.generations k.1 row hrow
  exact ⟨row',hrow',hle.trans hle'⟩

/-- What a write for one item does. -/
structure Change (workId : String) (s s' : QuarkStore) : Prop where
  grows : Grows s s'
  only : OnlyAt workId s s'
  sound : Sound s'

theorem Change.refl {s : QuarkStore} (h : Sound s) (workId : String) : Change workId s s := ⟨.refl s,.refl workId s,h⟩

theorem Change.trans {workId : String} {s t u : QuarkStore} (h : Change workId s t) (h' : Change workId t u) : Change workId s u :=
  ⟨h.grows.trans h'.grows,h.only.trans h'.only,h'.sound⟩

theorem grows_putWork {s : QuarkStore} {item : AgentWorkItem}
    (h : ∀ row, s.work.get? item.id = some row → row.generation ≤ item.generation) : Grows s (s.putWork item) := by
  refine ⟨fun workId row hrow => ?_,fun _ _ _ h _ => h⟩
  rw [QuarkStore.putWork_work]
  by_cases hid : workId = item.id
  · subst hid
    exact ⟨item,if_pos rfl,h row hrow⟩
  · exact ⟨row,by rw [if_neg hid,hrow],le_rfl⟩

theorem grows_putSlice {s : QuarkStore} {workId : String} {g : ℕ} (h : Unchecked s workId g) (slice : SliceRow) :
    Grows s (s.putSlice workId g slice) := by
  refine ⟨fun _ row hrow => ⟨row,hrow,le_rfl⟩,fun workId' g' slice' hget hchecked => ?_⟩
  rw [QuarkStore.putSlice_slices,if_neg ?_]
  · exact hget
  · rintro ⟨rfl,rfl⟩
    exact hchecked (h slice' hget)

theorem Known.putWork {s : QuarkStore} (hs : Known s) {item : AgentWorkItem}
    (h : ∀ row, s.work.get? item.id = some row → row.generation ≤ item.generation) : Known (s.putWork item) := by
  intro workId g slice hslice
  obtain ⟨row,hrow,hle⟩ := hs workId g slice hslice
  obtain ⟨row',hrow',hle'⟩ := (grows_putWork h).generations workId row hrow
  exact ⟨row',hrow',hle.trans hle'⟩

theorem Known.putSlice {s : QuarkStore} (hs : Known s) {workId : String} {g : ℕ} {row : AgentWorkItem}
    (hrow : s.work.get? workId = some row) (hg : g ≤ row.generation) (slice : SliceRow) : Known (s.putSlice workId g slice) := by
  intro workId' g' slice' hslice
  rw [QuarkStore.putSlice_slices] at hslice
  split at hslice
  · next hkey =>
    obtain ⟨rfl,rfl⟩ := hkey
    exact ⟨row,hrow,hg⟩
  · exact hs workId' g' slice' hslice

theorem change_putWork {s : QuarkStore} (hs : Sound s) (item : AgentWorkItem)
    (h : ∀ row, s.work.get? item.id = some row → row.generation ≤ item.generation)
    (hopen : item.state = .running → Unchecked s item.id item.generation) : Change item.id s (s.putWork item) := by
  refine ⟨grows_putWork h,onlyAt_putWork s rfl,⟨hs.known.putWork h,fun workId row hget hrunning => ?_⟩⟩
  rw [QuarkStore.putWork_work] at hget
  split at hget
  · next hid =>
    cases hget
    rw [hid]
    exact hopen hrunning
  · exact hs.running workId row hget hrunning

theorem change_putSlice {s : QuarkStore} (hs : Sound s) {workId : String} {g : ℕ} {row : AgentWorkItem}
    (hrow : s.work.get? workId = some row) (hg : g ≤ row.generation) (hopen : Unchecked s workId g) {slice : SliceRow}
    (hslice : slice.checkpointedAt = none) : Change workId s (s.putSlice workId g slice) := by
  refine ⟨grows_putSlice hopen slice,onlyAt_putSlice workId s g slice,
    ⟨hs.known.putSlice hrow hg slice,fun workId' row' hrow' hrunning slice' hslice' => ?_⟩⟩
  rw [QuarkStore.putSlice_slices] at hslice'
  split at hslice'
  · cases hslice'
    exact hslice
  · exact hs.running workId' row' hrow' hrunning slice' hslice'

theorem change_checkpoint {s : QuarkStore} (hs : Sound s) (item : AgentWorkItem) {row : AgentWorkItem} {g : ℕ} (hrow : s.work.get? item.id = some row)
    (hgeneration : item.generation = row.generation) (hg : g ≤ row.generation) (hopen : Unchecked s item.id g) (slice : SliceRow)
    (hstate : item.state ≠ .running) : Change item.id s ((s.putSlice item.id g slice).putWork item) := by
  have hle : ∀ r, (s.putSlice item.id g slice).work.get? item.id = some r → r.generation ≤ item.generation := by
    intro r hr
    rw [QuarkStore.putSlice_work,hrow] at hr
    cases hr
    exact hgeneration.ge
  refine ⟨(grows_putSlice hopen slice).trans (grows_putWork hle),(onlyAt_putSlice item.id s g slice).trans (onlyAt_putWork _ rfl),
    ⟨(hs.known.putSlice hrow hg slice).putWork hle,fun workId row' hrow' hrunning slice' hslice' => ?_⟩⟩
  rw [QuarkStore.putWork_work] at hrow'
  split at hrow'
  · cases hrow'
    exact absurd hrunning hstate
  · next hid =>
    rw [QuarkStore.putWork_slices,QuarkStore.putSlice_slices,if_neg fun h => hid h.1] at hslice'
    exact hs.running workId row' hrow' hrunning slice' hslice'

/-- The row of an item that is served runs in the generation of the copy. -/
structure Serving (s : QuarkStore) (item : AgentWorkItem) : Prop where
  row : s.work.get? item.id = some item
  running : item.state = .running

theorem Serving.unchecked {s : QuarkStore} {item : AgentWorkItem} (h : Serving s item) (hs : Sound s) : Unchecked s item.id item.generation :=
  hs.running _ _ h.row h.running

theorem Serving.elsewhere {s s' : QuarkStore} {item : AgentWorkItem} (h : Serving s item) {workId : String} (honly : OnlyAt workId s s')
    (hne : item.id ≠ workId) : Serving s' item := ⟨(honly.work _ hne).trans h.row,h.running⟩

/-! ### Statements of the store -/

theorem recordSliceObservation_change {s : QuarkStore} {item : AgentWorkItem} (hs : Sound s) (h : Serving s item) (o : Observation) :
    (QuarkTx.recordSliceObservation item.id item.generation o).Post s fun _ s' => Change item.id s s' ∧ Serving s' item := by
  unfold QuarkTx.recordSliceObservation QuarkTx.loadSlice liftTx
  simp only [Tx.post_bind,Tx.post_read,Tx.post_orRaise]
  intro row hrow
  cases row.usedIfKnown o.capacityAfter with
  | error e => trivial
  | ok units =>
    have hunchecked : (row.observed o units).checkpointedAt = none := h.unchecked hs row hrow
    exact ⟨change_putSlice hs h.row le_rfl (h.unchecked hs) hunchecked,⟨h.row,h.running⟩⟩

theorem recordSliceCheckpoint_change {s : QuarkStore} {item : AgentWorkItem} (hs : Sound s) (h : Serving s item) (c : Checkpoint) :
    (QuarkTx.recordSliceCheckpoint item.id item.generation c).Post s fun _ s' => Change item.id s s' := by
  unfold QuarkTx.recordSliceCheckpoint QuarkTx.loadSlice liftTx
  simp only [Tx.post_bind,Tx.post_read,Tx.post_orRaise]
  intro row _
  cases row.used c.quotaAfter with
  | error e => trivial
  | ok units =>
    simp only [Tx.post_pure,Tx.post_write,QuarkTx.loadWork,Tx.post_bind,Tx.post_read,Tx.post_orRaise,QuarkTx.saveWork]
    intro current hcurrent
    rw [QuarkStore.putSlice_work,h.row] at hcurrent
    cases hcurrent
    refine change_checkpoint hs (item.checkpointed c) h.row rfl le_rfl (h.unchecked hs) _ ?_
    unfold AgentWorkItem.checkpointed
    dsimp only
    split <;> decide

theorem markWaitingCapacity_change (workId : String) (resumeAt : Option String) (reason : String) {s : QuarkStore} (hs : Sound s) :
    (QuarkTx.markWaitingCapacity workId resumeAt reason).Post s fun _ s' => Change workId s s' := by
  unfold QuarkTx.markWaitingCapacity QuarkTx.loadWork QuarkTx.saveWork
  simp only [Tx.post_bind,Tx.post_read,Tx.post_orRaise,Tx.post_write]
  intro item hitem
  have hid : item.id = workId := s.keyed _ _ hitem
  subst hid
  refine change_putWork hs (item.waitingCapacity resumeAt reason) (fun row hrow => ?_) fun hrunning => by cases hrunning
  change s.work.get? item.id = some row at hrow
  rw [hitem] at hrow
  cases hrow
  exact le_rfl

theorem recordSliceStart_change {s : QuarkStore} {item : AgentWorkItem} (hs : Sound s) (h : Serving s item) (quotaBefore : Option ℚ)
    (lifetimeTokens : Option ℤ) (observedAt : String) :
    (QuarkTx.recordSliceStart item.id item.generation quotaBefore lifetimeTokens observedAt).Post s fun _ s' =>
      Change item.id s s' ∧ ∃ row, s'.work.get? item.id = some row ∧ row.generation = item.generation ∧ row.state = .running := by
  unfold QuarkTx.recordSliceStart QuarkTx.loadWork QuarkTx.saveWork
  simp only [Tx.post_bind,Tx.post_read,Tx.post_orRaise,Tx.post_write]
  intro current hcurrent
  rw [h.row] at hcurrent
  cases hcurrent
  have hopen : (startedSlice item item.generation quotaBefore lifetimeTokens observedAt).checkpointedAt = none := rfl
  have hslice := change_putSlice hs h.row le_rfl (h.unchecked hs) hopen
  have hserving : Serving (s.putSlice item.id item.generation (startedSlice item item.generation quotaBefore lifetimeTokens observedAt)) item :=
    ⟨h.row,h.running⟩
  refine ⟨hslice.trans (change_putWork hslice.sound { item with state := .running, updatedAt := some observedAt }
    (fun row hrow => ?_) fun _ => hserving.unchecked hslice.sound),{ item with state := .running, updatedAt := some observedAt },?_,rfl,rfl⟩
  · change _ = some row at hrow
    rw [hserving.row] at hrow
    cases hrow
    exact le_rfl
  · rw [QuarkStore.putWork_work]
    exact if_pos rfl

theorem recordedWork_generation (item : AgentWorkItem) (result : SliceResult) (capacityAfter : Option ℚ) (observedAt : String) :
    (recordedWork item result capacityAfter observedAt).generation = item.generation := by
  unfold recordedWork
  dsimp only
  split
  · rfl
  · split
    · split <;> rfl
    · rfl

/-- The row of a slice that gets a checkpoint is still running. -/
theorem recordedWork_running {item : AgentWorkItem} (h : item.state = .running) {result : SliceResult} {capacityAfter : Option ℚ}
    {lifetimeTokens : Option ℤ} {observedAt : String} {c : Checkpoint}
    (hcheckpoint : checkpointOf result capacityAfter lifetimeTokens observedAt = some c) :
    (recordedWork item result capacityAfter observedAt).state = .running := by
  unfold checkpointOf at hcheckpoint
  split at hcheckpoint
  · next hended =>
    cases hcapacity : capacityAfter with
    | none =>
      rw [hcapacity] at hcheckpoint
      cases hcheckpoint
    | some quotaAfter =>
      unfold recordedWork
      simp only [hended.1,hended.2,not_true_eq_false,if_false,if_true,Option.isSome_some]
      exact h
  · cases hcheckpoint

theorem saveRecorded_change {s : QuarkStore} {item : AgentWorkItem} (hs : Sound s) (h : Serving s item) (result : SliceResult)
    (capacityAfter : Option ℚ) (observedAt : String) :
    Change item.id s (s.putWork (recordedWork item result capacityAfter observedAt)) := by
  have hchange := change_putWork hs (recordedWork item result capacityAfter observedAt) (fun row hrow => ?_) fun _ => ?_
  · rwa [recordedWork_id] at hchange
  · rw [recordedWork_id,h.row] at hrow
    cases hrow
    rw [recordedWork_generation]
  · rw [recordedWork_id,recordedWork_generation]
    exact h.unchecked hs

/-- What is left when a row was written of which a checkpoint is to follow. -/
theorem checkpoint_change {s : QuarkStore} {item : AgentWorkItem} (hs : Sound s) (h : Serving s item) (result : SliceResult)
    (capacityAfter : Option ℚ) (lifetimeTokens : Option ℤ) (observedAt : String) {c : Checkpoint}
    (hcheckpoint : checkpointOf result capacityAfter lifetimeTokens observedAt = some c) :
    (QuarkTx.recordSliceCheckpoint item.id item.generation c).Post (s.putWork (recordedWork item result capacityAfter observedAt))
      fun _ s' => Change item.id (s.putWork (recordedWork item result capacityAfter observedAt)) s' := by
  have hserving : Serving (s.putWork (recordedWork item result capacityAfter observedAt)) (recordedWork item result capacityAfter observedAt) :=
    ⟨by rw [QuarkStore.putWork_work]; exact if_pos rfl,recordedWork_running h.running hcheckpoint⟩
  have hpost := recordSliceCheckpoint_change (saveRecorded_change hs h result capacityAfter observedAt).sound hserving c
  rwa [recordedWork_id,recordedWork_generation] at hpost

theorem recordResult_change {s : QuarkStore} {item : AgentWorkItem} (hs : Sound s) (h : Serving s item) (result : SliceResult)
    (capacityAfter : Option ℚ) (lifetimeTokens : Option ℤ) (observedAt : String) :
    (recordResult item result capacityAfter lifetimeTokens observedAt : QuarkTx ExecutionPayload).Post s fun _ s' => Change item.id s s' := by
  unfold recordResult
  rw [Tx.post_bind]
  refine (recordSliceObservation_change hs h _).mono fun _ s₁ h₁ => ?_
  obtain ⟨hchange₁,hserving⟩ := h₁
  rw [Tx.post_bind]
  have hchange₂ := saveRecorded_change hchange₁.sound hserving result capacityAfter observedAt
  change Tx.Post (checkpointIfAny item.id item.generation (checkpointOf result capacityAfter lifetimeTokens observedAt) >>= _)
    (s₁.putWork (recordedWork item result capacityAfter observedAt)) _
  rw [Tx.post_bind]
  unfold checkpointIfAny
  split
  · next c hcheckpoint =>
    exact (checkpoint_change hchange₁.sound hserving result capacityAfter lifetimeTokens observedAt hcheckpoint).mono fun _ s₃ h₃ =>
      hchange₁.trans (hchange₂.trans h₃)
  · exact hchange₁.trans hchange₂

/-! ### Programs -/

section Programs
variable {started : List (String × ℕ)} {s : QuarkStore}

/-- The program puts no slice to the executor, and what it writes is for one item. -/
def Changes {α : Type} (workId : String) (R : α → QuarkStore → Prop) (s : QuarkStore) (started : List (String × ℕ)) (a : α)
    (started' : List (String × ℕ)) (s' : QuarkStore) : Prop :=
  started' = started ∧ Ok started s' ∧ Change workId s s' ∧ R a s'

theorem keeps_change {α : Type} {held : Held} (hheld : ∀ a, held ≠ .reserving a) {workId : String} {R : α → QuarkStore → Prop}
    {t : QuarkTx α} (hok : Ok started s) (h : t.Post s fun a s' => Change workId s s' ∧ R a s') :
    chronicle.Keeps (Changes workId R s started) (Prog.transaction held t) started s := by
  refine Chronicle.keeps_transaction hok (fun _ _ => ⟨.refl s,fun a heq => absurd heq (hheld a)⟩) (h.mono fun a s' hs _ => ?_)
  have hok' : Ok started s' := hok.grows hs.1.grows hs.1.sound
  exact ⟨⟨hs.1.grows,fun a heq => absurd heq (hheld a)⟩,hok',rfl,hok',hs⟩

theorem keeps_loadWork (hok : Ok started s) (workId : String) :
    chronicle.Keeps (fun item started' s' => started' = started ∧ s' = s ∧ s.work.get? workId = some item)
      (loadWork workId : QuarkProg AgentWorkItem) started s := by
  refine Chronicle.keeps_transaction hok (fun _ _ => ⟨.refl s,nofun⟩) ?_
  unfold QuarkTx.loadWork
  simp only [Tx.post_bind,Tx.post_read,Tx.post_orRaise]
  exact fun item hitem _ => ⟨⟨.refl s,nofun⟩,hok,trivial,trivial,hitem⟩

theorem keeps_asked {β : Type} {q : QuarkQuery} (hq : slice? q = none) {Ret : β → List (String × ℕ) → QuarkStore → Prop}
    {f : QuarkAnswer q → QuarkProg β} (hok : Ok started s) (hf : ∀ answer, chronicle.Keeps Ret (f answer) started s) :
    chronicle.Keeps Ret (Prog.ask q >>= f) started s := by
  have hmark : (chronicle.mark q).toList ++ started = started := by
    change (slice? q).toList ++ started = started
    rw [hq]
    rfl
  refine Chronicle.keeps_ask_bind (fun item a prompt heq => ?_) ?_ fun answer => ?_
  · rw [heq] at hq
    cases hq
  · rw [hmark]
    exact hok
  · rw [hmark]
    exact hf answer

/-- The program neither asks for a slice nor writes. -/
def Still {α : Type} (s : QuarkStore) (started : List (String × ℕ)) (_ : α) (started' : List (String × ℕ)) (s' : QuarkStore) : Prop :=
  started' = started ∧ s' = s

theorem keeps_orRaise {α : Type} (o : Option α) (e : QuarkError) :
    chronicle.Keeps (Still s started) (orRaise o e : QuarkProg α) started s := Chronicle.keeps_orRaise fun _ _ => ⟨rfl,rfl⟩

theorem keeps_refresh (hok : Ok started s) : chronicle.Keeps (Still s started) refresh started s :=
  keeps_asked rfl hok fun answer => keeps_orRaise answer _

theorem keeps_observedAt (hok : Ok started s) (snapshot : UsageSnapshot) :
    chronicle.Keeps (Still s started) (observedAt snapshot) started s := by
  have hask : chronicle.Keeps (Still s started) (Prog.ask QuarkQuery.timestamp >>= fun clock => (pure clock : QuarkProg String)) started s :=
    keeps_asked rfl hok fun _ => ⟨rfl,rfl⟩
  unfold observedAt
  split
  · split
    · exact hask
    · exact ⟨rfl,rfl⟩
  · exact hask

theorem keeps_rejectResult (hok : Ok started s) (item : AgentWorkItem) (result : SliceResult) :
    chronicle.Keeps (Still s started) (rejectResult item result) started s := by
  unfold rejectResult
  refine Chronicle.keeps_bind (M := Still s started) (Chronicle.keeps_rescue hok (fun _ _ => ⟨.refl s,nofun⟩) ?_ fun e => ?_) fun _ _ _ h => h
  · unfold QuarkTx.loadWork
    simp only [Tx.post_bind,Tx.post_read,Tx.post_orRaise]
    exact fun _ _ _ => ⟨⟨.refl s,nofun⟩,hok,rfl,rfl⟩
  · cases e <;> first | exact ⟨rfl,rfl⟩ | trivial

/-- A result is stored for an item whose row runs in the generation of the copy. -/
theorem keeps_persist {held : Held} (hheld : ∀ a, held ≠ .reserving a) (hok : Ok started s) {item : AgentWorkItem} (h : Serving s item)
    (result : SliceResult) (capacityAfter : Option ℚ) (snapshot : UsageSnapshot) :
    chronicle.Keeps (Changes item.id (fun _ _ => True) s started) (persistExecutionResult held item result capacityAfter snapshot) started s := by
  have hstill : ∀ {α : Type} {p : QuarkProg α}, chronicle.Keeps (Still s started) p started s →
      chronicle.Keeps (Changes item.id (fun _ _ => True) s started) p started s := fun hp =>
    hp.mono fun _ _ _ hstill => ⟨hstill.1,by rw [hstill.2]; exact hok,by rw [hstill.2]; exact .refl hok.sound _,trivial⟩
  unfold persistExecutionResult
  split
  · exact hstill (keeps_rejectResult hok item result)
  · refine Chronicle.keeps_bind (keeps_observedAt hok snapshot) ?_
    rintro clock _ s ⟨rfl,rfl⟩
    split
    · -- the writes one by one
      unfold recordResult
      refine Chronicle.keeps_holding_bind (Chronicle.keeps_holding_atomically
        (keeps_change hheld hok (recordSliceObservation_change hok.sound h _))) ?_
      rintro - started₁ s₁ ⟨rfl,hok₁,hchange₁,hserving⟩
      have hchange₂ := saveRecorded_change hok₁.sound hserving result capacityAfter clock
      have hsave : (QuarkTx.saveWork (recordedWork item result capacityAfter clock)).Post s₁ fun _ s' =>
          Change item.id s₁ s' ∧ s' = s₁.putWork (recordedWork item result capacityAfter clock) := ⟨hchange₂,rfl⟩
      refine Chronicle.keeps_holding_bind (Chronicle.keeps_holding_atomically (keeps_change hheld hok₁ hsave)) ?_
      rintro - started₂ s₂ ⟨rfl,hok₂,-,rfl⟩
      refine Chronicle.keeps_holding_bind (M := Changes item.id (fun _ _ => True) s started₂) ?_ fun _ _ _ h₃ => h₃
      unfold checkpointIfAny
      split
      · next c hcheckpoint =>
        refine Chronicle.keeps_holding_atomically ((keeps_change hheld hok₂ ((checkpoint_change hok₁.sound hserving result capacityAfter
          snapshot.lifetimeTokens clock hcheckpoint).mono fun _ _ h₃ => ⟨h₃,trivial⟩)).mono ?_)
        rintro - started₃ s₃ ⟨rfl,hok₃,hchange₃,-⟩
        exact ⟨rfl,hok₃,hchange₁.trans (hchange₂.trans hchange₃),trivial⟩
      · exact ⟨rfl,hok₂,hchange₁.trans hchange₂,trivial⟩
    · -- the writes under the binding
      next expected hexpected =>
      have hbody := recordResult_change hok.sound h result capacityAfter snapshot.lifetimeTokens clock
      have hbinding : (underWorkBinding item.id expected (recordResult item result capacityAfter snapshot.lifetimeTokens clock)).Post s
          fun _ s' => Change item.id s s' ∧ True := by
        unfold Tx.Post
        rcases underWorkBinding_cases item.id expected (recordResult item result capacityAfter snapshot.lifetimeTokens clock) s with
          ⟨e,hrun⟩ | ⟨current,hrun⟩ | ⟨row,a,s',hrun,-,-,hdone⟩
        · rw [hrun]
          trivial
        · rw [hrun]
          exact ⟨.refl hok.sound _,trivial⟩
        · rw [hrun]
          exact ⟨hbody.of_ok hdone,trivial⟩
      refine Chronicle.keeps_bind (keeps_change hheld hok hbinding) ?_
      rintro outcome _ s₁ ⟨rfl,hok₁,hchange,-⟩
      split
      · exact ⟨rfl,hok₁,hchange,trivial⟩
      · refine (keeps_rejectResult hok₁ _ _).mono ?_
        rintro _ _ s₂ ⟨rfl,rfl⟩
        exact ⟨rfl,hok₁,hchange,trivial⟩

/-- Only slices of the item are started, and what is written is for it. -/
def Serves {α : Type} (workId : String) (s : QuarkStore) (_ : α) (started' : List (String × ℕ)) (s' : QuarkStore) : Prop :=
  Ok started' s' ∧ OnlyAt workId s s'

theorem keeps_window (snapshot : UsageSnapshot) (limitId : String) :
    chronicle.Keeps (Still s started) (window snapshot limitId) started s := keeps_orRaise _ _

theorem keeps_reconcileAll (remainingCapacity : Option ℚ) (before : UsageSnapshot) (items : List AgentWorkItem) (hok : Ok started s)
    (hids : (items.map (·.id)).Nodup) (hitems : ∀ item ∈ items, Serving s item) :
    chronicle.Keeps (fun _ started' s' => Ok started' s') (reconcileAll remainingCapacity before items) started s := by
  induction items generalizing started s with
  | nil => exact hok
  | cons item items ih =>
    obtain ⟨hnew,hids⟩ := List.nodup_cons.mp hids
    refine Chronicle.keeps_bind (M := Still s started) (keeps_asked rfl hok fun answer => keeps_orRaise answer _) ?_
    rintro result _ s ⟨rfl,rfl⟩
    refine Chronicle.keeps_bind (keeps_persist (fun _ heq => by cases heq) hok (hitems item List.mem_cons_self) result _ _) ?_
    rintro payload _ s₁ ⟨rfl,hok₁,hchange,-⟩
    refine Chronicle.keeps_bind (ih hok₁ hids fun other hother => ?_) fun _ _ _ h => h
    refine (hitems other (List.mem_cons_of_mem _ hother)).elsewhere hchange.only fun heq => hnew ?_
    exact List.mem_map.mpr ⟨other,hother,heq⟩

theorem keeps_executeSlice {limitId : String} {remainingCapacity : Option ℚ} {before : UsageSnapshot} {a : WorkAllocation}
    (hok : Ok started s) (hplanned : Planned s a) :
    chronicle.Keeps (Serves a.workId s) (executeSlice limitId remainingCapacity before a) started s := by
  obtain ⟨item,hrow,hstate,ha⟩ := hplanned
  have hid : item.id = a.workId := s.keyed _ _ hrow
  have hgeneration : a.generation = item.generation + 1 := congrArg WorkAllocation.generation ha
  -- neither a slice nor a start of the new generation is known yet
  have hfresh : (item.id,a.generation) ∉ started := by
    intro hmem
    obtain ⟨row,hget,hle⟩ := hok.past _ hmem
    rw [hid,hrow] at hget
    cases hget
    change a.generation ≤ item.generation at hle
    omega
  have hnone : Unchecked s item.id a.generation := by
    intro slice hslice
    obtain ⟨row,hget,hle⟩ := hok.sound.known _ _ _ hslice
    rw [hid,hrow] at hget
    cases hget
    omega
  refine Chronicle.keeps_bind (keeps_loadWork hok a.workId) ?_
  rintro _ started s ⟨rfl,rfl,hloaded⟩
  rw [hrow] at hloaded
  cases hloaded
  refine Chronicle.keeps_bind (keeps_observedAt hok before) ?_
  rintro startedAt started s ⟨rfl,rfl⟩
  have hle : ∀ row, s.work.get? (reserved item a startedAt).id = some row → row.generation ≤ (reserved item a startedAt).generation := by
    intro row hget
    change s.work.get? item.id = some row at hget
    rw [hid,hrow] at hget
    cases hget
    change item.generation ≤ a.generation
    omega
  have hchange₁ : Change item.id s (s.putWork (reserved item a startedAt)) := change_putWork hok.sound (reserved item a startedAt) hle fun _ => hnone
  have hserving : Serving (s.putWork (reserved item a startedAt)) (reserved item a startedAt) :=
    ⟨by rw [QuarkStore.putWork_work]; exact if_pos rfl,rfl⟩
  refine Chronicle.keeps_bind (M := fun _ started' s' => started' = started ∧ s' = s.putWork (reserved item a startedAt) ∧ Ok started s')
    (Chronicle.keeps_holding_atomically (Chronicle.keeps_transaction hok (fun _ herror => by cases herror) fun _ => ?_)) ?_
  · refine ⟨⟨hchange₁.grows,fun b hb => ?_⟩,hok.grows hchange₁.grows hchange₁.sound,rfl,rfl,hok.grows hchange₁.grows hchange₁.sound⟩
    cases hb
    refine ⟨item,reserved item a startedAt,hrow,?_,hstate,by omega,rfl,rfl⟩
    rw [← hid]
    exact hserving.row
  rintro - started s₁ ⟨rfl,rfl,hok₁⟩
  refine Chronicle.keeps_bind (keeps_change (fun _ heq => by cases heq) hok₁ (recordSliceStart_change hok₁.sound hserving _ _ _)) ?_
  rintro - started s₂ ⟨rfl,hok₂,hchange₂,row,hget,hrowGeneration,hrunning⟩
  change s₂.work.get? item.id = some row at hget
  change row.generation = a.generation at hrowGeneration
  have hok₃ : Ok ((item.id,a.generation) :: started) s₂ := by
    refine ⟨List.nodup_cons.mpr ⟨hfresh,hok₂.once⟩,fun k hk => ?_,hok₂.sound⟩
    rcases List.mem_cons.mp hk with rfl | hk
    · exact ⟨row,hget,hrowGeneration.ge⟩
    · exact hok₂.past k hk
  have hasked : AskedFine s₂ (.runSlice item a (checkpointPrompt item a)) := by
    intro item' a' prompt heq
    cases heq
    exact ⟨hid,hstate,by omega,row,hid ▸ hget,hrowGeneration,hrunning⟩
  refine Chronicle.keeps_bind (M := Still s₂ ((item.id,a.generation) :: started))
    (Chronicle.keeps_ask_bind hasked hok₃ fun answer => keeps_orRaise answer _) ?_
  rintro result _ s₂ ⟨rfl,rfl⟩
  refine Chronicle.keeps_bind (keeps_refresh hok₃) ?_
  rintro after _ s₂ ⟨rfl,rfl⟩
  refine Chronicle.keeps_bind (keeps_window after limitId) ?_
  rintro afterWindow _ s₂ ⟨rfl,rfl⟩
  refine Chronicle.keeps_bind (keeps_loadWork hok₃ item.id) ?_
  rintro current _ s₂ ⟨rfl,rfl,hcurrent⟩
  rw [hget] at hcurrent
  cases hcurrent
  have hcurrentId : row.id = item.id := s₂.keyed _ _ hget
  refine (keeps_persist (fun _ heq => by cases heq) hok₃ ⟨by rw [hcurrentId]; exact hget,hrunning⟩ result _ _).mono ?_
  rintro payload _ s₃ ⟨rfl,hok₄,hchange₃,-⟩
  have honly : OnlyAt item.id s s₃ := (hchange₁.only.trans hchange₂.only).trans (hcurrentId ▸ hchange₃.only)
  exact ⟨hok₄,hid ▸ honly⟩

theorem planned_elsewhere {s s' : QuarkStore} {a : WorkAllocation} (h : Planned s a) {workId : String} (honly : OnlyAt workId s s')
    (hne : a.workId ≠ workId) : Planned s' a := by
  obtain ⟨item,hrow,hrest⟩ := h
  exact ⟨item,(honly.work _ hne).trans hrow,hrest⟩

theorem keeps_executeAll {limitId : String} {remainingCapacity : Option ℚ} {before : UsageSnapshot} (allocations : List WorkAllocation)
    (hok : Ok started s) (hids : (allocations.map (·.workId)).Nodup) (hplanned : ∀ a ∈ allocations, Planned s a) :
    chronicle.Keeps (fun _ started' s' => Ok started' s') (executeAll limitId remainingCapacity before allocations) started s := by
  induction allocations generalizing started s with
  | nil => exact hok
  | cons a rest ih =>
    obtain ⟨hnew,hids⟩ := List.nodup_cons.mp hids
    refine Chronicle.keeps_bind (keeps_executeSlice hok (hplanned a List.mem_cons_self)) ?_
    rintro payload started₁ s₁ ⟨hok₁,honly⟩
    refine Chronicle.keeps_bind (ih hok₁ hids fun b hb => ?_) fun _ _ _ h => h
    exact planned_elsewhere (hplanned b (List.mem_cons_of_mem _ hb)) honly fun heq => hnew (List.mem_map.mpr ⟨b,hb,heq⟩)

theorem keeps_sweepAll (resumeAt : Option String) (reason : String) (items : List AgentWorkItem) (hok : Ok started s) :
    chronicle.Keeps (fun _ started' s' => Ok started' s') (sweepAll resumeAt reason items) started s := by
  induction items generalizing started s with
  | nil => exact hok
  | cons item items ih =>
    have hmark : (QuarkTx.markWaitingCapacity item.id resumeAt reason).Post s fun _ s' => Change item.id s s' ∧ True :=
      (markWaitingCapacity_change _ _ _ hok.sound).mono fun _ _ h => ⟨h,trivial⟩
    refine Chronicle.keeps_bind (Chronicle.keeps_holding_atomically (keeps_change (fun _ heq => by cases heq) hok hmark)) ?_
    rintro - _ s₁ ⟨rfl,hok₁,-,-⟩
    exact ih hok₁

/-! ### Cycles -/

theorem keeps_liftPlan (plan : ExceptT PlanError Option QuarkWorkPlan) :
    chronicle.Keeps (fun a started' s' => plan = pure a ∧ started' = started ∧ s' = s) (liftPlan plan) started s := by
  unfold liftPlan
  split
  · exact ⟨rfl,rfl,rfl⟩
  · trivial
  · trivial

/-- The listing is planned on at this store, and no two of the slices that are selected are of one item. -/
def Selects (execute : Bool) (p : Planning) (s : QuarkStore) : Prop := execute = true →
  ∀ plan, p.plan (p.service.workForLimit p.limitId s) = pure plan → ((p.selection plan).map (·.workId)).Nodup

theorem keeps_planCycle {execute : Bool} {p : Planning} {before : UsageSnapshot} {payloads : List ExecutionPayload} (hok : Ok started s)
    (hselects : Selects execute p s) :
    chronicle.Keeps (fun _ started' s' => Ok started' s') (planCycle execute p before (p.service.workForLimit p.limitId s) payloads) started s := by
  refine Chronicle.keeps_bind (keeps_liftPlan _) ?_
  rintro plan _ s ⟨hplan,rfl,rfl⟩
  split
  · exact Chronicle.keeps_bind (keeps_sweepAll _ _ _ hok) fun _ _ _ h => h
  · split
    · next hexecute =>
      refine Chronicle.keeps_bind (keeps_executeAll _ hok (hselects hexecute plan hplan) fun a ha => ?_) fun _ _ _ h => h
      exact (plan_planned hplan).1 a ((List.take_sublist _ _).subset ha)
    · exact hok

theorem keeps_workForLimit (service : QuarkSchedulerService) (limitId : String) (held : Held) (hheld : ∀ a, held ≠ .reserving a)
    (hok : Ok started s) :
    chronicle.Keeps (fun work started' s' => Allowed s held s ∧ work = service.workForLimit limitId s ∧ started' = started ∧ s' = s)
      (workForLimit service limitId held) started s := by
  have hread : chronicle.Keeps (fun rows started' s' => Allowed s held s ∧ rows = s.listed ∧ started' = started ∧ s' = s)
      ((listWork : QuarkProg (List AgentWorkItem)).holding held) started s :=
    Chronicle.keeps_holding_atomically (Chronicle.keeps_transaction hok (fun _ _ => ⟨.refl s,fun a heq => absurd heq (hheld a)⟩)
      fun hallowed => ⟨⟨.refl s,fun a heq => absurd heq (hheld a)⟩,hok,hallowed,rfl,rfl,rfl⟩)
  refine Chronicle.keeps_bind hread ?_
  rintro rows _ s ⟨hallowed,rfl,rfl,rfl⟩
  exact ⟨hallowed,rfl,rfl,rfl⟩

theorem selects_of_allowed {execute : Bool} {p : Planning} (h : Allowed s (.planning p) s)
    (hunit : p.checksUnit = true → usageUnitMismatchReason p.window (p.service.workForLimit p.limitId s) p.limitId = none) :
    Selects execute p s := by
  intro _ plan hplan
  have hselected : p.selected s = p.selection plan := by
    unfold Planning.selected
    rw [if_neg fun hmismatch => ?_,hplan]
    · rfl
    · rw [hunit hmismatch.1] at hmismatch
      cases hmismatch.2
  rw [← hselected]
  exact h

theorem keeps_reconcileCycle {p : Planning} {before : UsageSnapshot} (hok : Ok started s) :
    chronicle.Keeps (fun _ started' s' => Ok started' s') (reconcileCycle p before (p.service.workForLimit p.limitId s)) started s := by
  have hids := workForLimit_ids p.service p.limitId s
  refine Chronicle.keeps_bind (keeps_reconcileAll _ before _ hok (hids.sublist (List.filter_sublist.map _)) fun item hitem => ?_) ?_
  · obtain ⟨hlisted,hreconcilable⟩ := List.mem_filter.mp hitem
    exact ⟨(mem_workForLimit.mp hlisted).1,(of_decide_eq_true hreconcilable).1⟩
  · intro payloads started₁ s₁ hok₁
    refine Chronicle.keeps_bind (keeps_workForLimit p.service p.limitId _ (fun _ heq => by cases heq) hok₁) ?_
    rintro work started₂ s₂ ⟨hallowed,rfl,rfl,rfl⟩
    have hselects : Selects true { p with checksUnit := false } s₂ := selects_of_allowed hallowed nofun
    exact keeps_planCycle hok₁ hselects

theorem keeps_runCycle (service : QuarkSchedulerService) (execute : Bool) (limitId : String) (hok : Ok started s) :
    chronicle.Keeps (fun _ started' s' => Ok started' s') (runCycle service execute limitId) started s := by
  unfold runCycle
  refine Chronicle.keeps_bind (keeps_refresh hok) ?_
  rintro before started s ⟨rfl,rfl⟩
  refine Chronicle.keeps_bind (keeps_window before limitId) ?_
  rintro window started s ⟨rfl,rfl⟩
  have hheld : ∀ a, firstListing execute ⟨service,limitId,window,true⟩ ≠ .reserving a := by
    intro a heq
    unfold firstListing at heq
    split at heq <;> cases heq
  refine Chronicle.keeps_bind (keeps_workForLimit service limitId _ hheld hok) ?_
  rintro work started s ⟨hallowed,rfl,rfl,rfl⟩
  unfold listedCycle
  split
  · refine Chronicle.keeps_bind (keeps_liftPlan _) ?_
    rintro plan _ s ⟨-,rfl,rfl⟩
    exact hok
  · next hunit =>
    split
    · exact @keeps_reconcileCycle started s ⟨service,limitId,window,true⟩ before hok
    · next hnot =>
      refine @keeps_planCycle started s execute ⟨service,limitId,window,true⟩ before [] hok fun hexecute => ?_
      have hcannot : service.canReconcile = false := Bool.eq_false_iff.mpr fun hcan => hnot ⟨hexecute,hcan⟩
      have hfirst : firstListing execute ⟨service,limitId,window,true⟩ = .planning ⟨service,limitId,window,true⟩ := if_pos ⟨hexecute,hcannot⟩
      rw [hfirst] at hallowed
      exact (selects_of_allowed hallowed fun _ => hunit : Selects execute ⟨service,limitId,window,true⟩ s) hexecute

theorem keeps_registerWork (f : WorkFields) (hok : Ok started s) :
    chronicle.Keeps (fun _ started' s' => Ok started' s') (registerWork f) started s := by
  unfold registerWork
  split
  · next item hitem =>
    refine Chronicle.keeps_holding_atomically (Chronicle.keeps_transaction hok (fun _ herror => by cases herror) fun hallowed => ?_)
    have hnone : s.work.get? item.id = none := hallowed
    have hchange := change_putWork hok.sound item (fun row hrow => by rw [hnone] at hrow; cases hrow) fun hrunning => ?_
    · exact ⟨⟨hchange.grows,fun _ heq => by cases heq⟩,hok.grows hchange.grows hchange.sound,hok.grows hchange.grows hchange.sound⟩
    · rw [(agentWorkItem_fresh hitem).2.1] at hrunning
      cases hrunning
  · trivial

end Programs

/-! ### Runs -/

abbrev QuarkEvent := Event QuarkStore Held QuarkAnswer

/-- The operations one after the other, each to its end or broken off, with what they committed and asked. -/
inductive Ran : List QuarkEvent → QuarkStore → Prop where
  | empty : Ran [] .empty
  | operation {events events' : List QuarkEvent} {s s' : QuarkStore} {p : QuarkProg Unit} (h : Ran events s)
      (hp : ReservationDiscipline.Operation p) (hrun : p.Recorded s events' s') : Ran (events ++ events') s'

theorem keeps_operation {p : QuarkProg Unit} (h : ReservationDiscipline.Operation p) {started : List (String × ℕ)} {s : QuarkStore}
    (hok : Ok started s) : chronicle.Keeps (fun _ started' s' => Ok started' s') p started s := by
  cases h with
  | registerWork f => exact keeps_registerWork f hok
  | registerAgentWork f usageUnit =>
    unfold registerAgentWork
    split
    · trivial
    · exact keeps_registerWork _ hok
  | runCycle service execute limitId => exact Chronicle.keeps_bind (keeps_runCycle service execute limitId hok) fun _ _ _ h => h

/-- The slices that were put to the executor. -/
def startedSlices (events : List QuarkEvent) : List (String × ℕ) := events.filterMap chronicle.eventMark

/-- A slice is started once, for a row that can be served, which goes to a new generation; generations do not go back and
checkpoints stay. -/
structure ExecutedOnce (events : List QuarkEvent) : Prop where
  once : (startedSlices events).Nodup
  starts : ∀ s item a prompt answer, Event.asked s (.runSlice item a prompt) answer ∈ events → Starts s item a
  reserves : ∀ a s s', Event.commit (.reserving a) s s' ∈ events → Reserves a s s'
  grows : ∀ held s s', Event.commit held s s' ∈ events → Grows s s'

theorem Ran.ok {events : List QuarkEvent} {s : QuarkStore} (h : Ran events s) (hallowed : ∀ e ∈ events, chronicle.Allowed e) :
    (∀ e ∈ events, chronicle.Fine e) ∧ Ok (startedSlices events).reverse s := by
  induction h with
  | empty =>
    refine ⟨fun _ he => ?_,⟨List.nodup_nil,fun _ hk => ?_,⟨fun _ _ _ hslice => ?_,fun _ _ hrow => ?_⟩⟩⟩
    · cases he
    · cases hk
    · cases hslice
    · cases hrow
  | @operation events events' s s' p _ hp hrun ih =>
    obtain ⟨hfine,hok⟩ := ih fun e he => hallowed e (List.mem_append_left _ he)
    obtain ⟨hfine',hok'⟩ := (keeps_operation hp hok).recorded hok hrun fun e he => hallowed e (List.mem_append_right _ he)
    refine ⟨fun e he => (List.mem_append.mp he).elim (hfine e) (hfine' e),?_⟩
    have hmarks : (startedSlices (events ++ events')).reverse = chronicle.marks (startedSlices events).reverse events' := by
      unfold startedSlices Chronicle.marks
      rw [List.filterMap_append,List.reverse_append]
    rw [hmarks]
    exact hok'

/-- Over all operations that follow one another, broken off anywhere, where an id is registered only when no row has it and a
cycle that executes selects no two slices of one item. -/
theorem one_execution {events : List QuarkEvent} {s : QuarkStore} (h : Ran events s) (hallowed : ∀ e ∈ events, chronicle.Allowed e) :
    ExecutedOnce events := by
  obtain ⟨hfine,hok⟩ := h.ok hallowed
  refine ⟨List.nodup_reverse.mp hok.once,fun s item a prompt answer he => ?_,fun a s s' he => ?_,fun held s s' he => ?_⟩
  · exact hfine _ he item a prompt rfl
  · exact (hfine _ he).2 a rfl
  · exact (hfine _ he).1

instance (s : QuarkStore) (held : Held) (s' : QuarkStore) : Decidable (Allowed s held s') :=
  match held with
  | .registering workId => inferInstanceAs (Decidable (s.work.get? workId = none))
  | .planning p => inferInstanceAs (Decidable ((p.selected s).map (·.workId)).Nodup)
  | .plain | .reserving _ | .sweeping _ | .settling _ => inferInstanceAs (Decidable True)

instance : DecidablePred chronicle.Allowed := fun e =>
  match e with
  | .commit held s s' => inferInstanceAs (Decidable (Allowed s held s'))
  | .asked _ _ _ => inferInstanceAs (Decidable True)

def tenPointsWork : WorkFields := { ReservationDiscipline.fivePointsWork with estimatedUnits := 10 }

def registered : List QuarkEvent × QuarkStore := (registerWork tenPointsWork : QuarkProg Unit).record (fallingAnswers [100] 0) 1 .empty

/-- The cycle finds a hundred points left. -/
def cycled (service : QuarkSchedulerService) : List QuarkEvent × QuarkStore :=
  (runCycle service true "codex" >>= fun _ => pure () : QuarkProg Unit).record (fallingAnswers [100] 0) 40 registered.2

theorem ran_cycled (service : QuarkSchedulerService) : Ran (registered.1 ++ (cycled service).1) (cycled service).2 := by
  have hfirst : Ran ([] ++ registered.1) registered.2 := .operation .empty (.registerWork tenPointsWork) (Prog.recorded_record _ _ _ _)
  rw [List.nil_append] at hfirst
  exact .operation hfirst (.runCycle service true "codex") (Prog.recorded_record _ _ _ _)

theorem one_execution_single : startedSlices (registered.1 ++ (cycled {}).1) = [("w",1)] ∧ ExecutedOnce (registered.1 ++ (cycled {}).1) :=
  ⟨by decide +kernel,one_execution (ran_cycled {}) (by decide +kernel)⟩

/-- A cycle that may start two slices starts two of one item, with one generation. -/
theorem slice_executed_twice : ∃ events s, Ran events s ∧ startedSlices events = [("w",1),("w",1)] ∧ ¬ ExecutedOnce events := by
  have hstarted : startedSlices (registered.1 ++ (cycled (startsUpTo 2 (by decide))).1) = [("w",1),("w",1)] := by decide +kernel
  refine ⟨_,_,ran_cycled (startsUpTo 2 (by decide)),hstarted,fun h => ?_⟩
  have honce := h.once
  rw [hstarted] at honce
  exact absurd honce (by decide)

end OneExecution
end Overseer.Quark
