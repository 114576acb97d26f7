import Overseer.Psychlo.OutboxAside
import Overseer.Psychlo.RoundResults
import Overseer.Library.Answered

/-! # Recovery sends what was sent

Every row of the outbox holds a message that recovery makes again out of itself, under its
own digest. A message goes out only when the outbox holds a row with it, and no row changes
its message: whoever sends, and however often, sends the same.
-/
namespace Overseer.Psychlo
open Overseer.Library Overseer.Agent

/-- The row holds a message that recovery makes again, and its digest. -/
structure Resendable (host : Host) (kind : ProtocolKind) (id : String) (row : ProtocolRow) : Prop where
  wire : host.adoptionWire kind id row.payload = .ok row.payload
  digest : host.canonicalDigest row.payload = row.digest

structure Outbox (host : Host) (s : BridgeStore) : Prop where
  candidates : ∀ id row, (s.filed .candidate).get? id = some row → host.Candidate row.payload
  records : ∀ kind ∈ adoptionKinds, ∀ id row, (s.protocol kind).get? id = some row → Resendable host kind id row

/-- No record loses its message or its digest. -/
def OutboxKept (s s' : BridgeStore) : Prop := ∀ kind ∈ adoptionKinds, ∀ id row, (s.protocol kind).get? id = some row →
  ∃ row', (s'.protocol kind).get? id = some row' ∧ row'.payload = row.payload ∧ row'.digest = row.digest

/-- A message of the outbox goes out only when its row holds it. -/
def Posted (host : Host) (s : BridgeStore) : BridgeQuery → Prop
  | .sender (.protocol kind) id message => kind ∈ adoptionKinds → ∃ row, (s.protocol kind).get? id = some row ∧
      row.payload.alike message = true ∧ host.canonicalDigest message = row.digest
  | _ => True

theorem posted_of_unmarked (host : Host) (s : BridgeStore) (q : BridgeQuery) (h : ¬ isAdoptionMessage q) : Posted host s q := by
  cases q with
  | sender kind id message =>
    cases kind with
    | protocol kind => exact fun hkind => absurd hkind h
    | _ => trivial
  | _ => trivial

theorem OutboxKept.refl (s : BridgeStore) : OutboxKept s s := fun _ _ _ row hrow => ⟨row,hrow,rfl,rfl⟩

theorem OutboxKept.trans {s s' s'' : BridgeStore} (h : OutboxKept s s') (h' : OutboxKept s' s'') : OutboxKept s s'' := by
  intro kind hkind id row hrow
  obtain ⟨row',hrow',hpayload,hdigest⟩ := h kind hkind id row hrow
  obtain ⟨row'',hrow'',hpayload',hdigest'⟩ := h' kind hkind id row' hrow'
  exact ⟨row'',hrow'',hpayload'.trans hpayload,hdigest'.trans hdigest⟩

theorem OutboxSame.kept {host : Host} {s s' : BridgeStore} (h : OutboxSame s s') (hok : Outbox host s) :
    OutboxKept s s' ∧ Outbox host s' := by
  refine ⟨fun kind hkind id row hrow => ⟨row,by rw [h.1 kind hkind,hrow],rfl,rfl⟩,?_,fun kind hkind id row hrow => ?_⟩
  · intro id row hrow
    rw [h.2] at hrow
    exact hok.candidates id row hrow
  · rw [h.1 kind hkind] at hrow
    exact hok.records kind hkind id row hrow

theorem Posted.kept {host : Host} {s s' : BridgeStore} {q : BridgeQuery} (h : Posted host s q) (hkept : OutboxKept s s') :
    Posted host s' q := by
  cases q with
  | sender kind id message =>
    cases kind with
    | protocol kind =>
      intro hkind
      obtain ⟨row,hrow,halike,hdigest⟩ := h hkind
      obtain ⟨row',hrow',hpayload,hdigest'⟩ := hkept kind hkind id row hrow
      exact ⟨row',hrow',hpayload ▸ halike,hdigest.trans hdigest'.symm⟩
    | _ => trivial
  | _ => trivial

/-- The bridge's calls on adoption records, a recovery and what it does after these two kinds, and whatever else lets the
outbox alone. -/
inductive AdoptionCall (host : Host) : BridgeProg Unit → Prop
  | register (b : Bridge) (hb : b.host = host) (payload : Payload) : AdoptionCall host (ignoring (b.registerCandidate payload))
  | record (b : Bridge) (hb : b.host = host) (payload : Payload) : AdoptionCall host (ignoring (b.recordAdoptionEvidence payload))
  | recover (b : Bridge) (hb : b.host = host) : AdoptionCall host (ignoring b.adopting.recoverProtocolRecords)
  | other {p : BridgeProg Unit} (hp : Aside p) : AdoptionCall host p

def adoptionSystem (host : Host) : BridgeSystem where
  start := AdoptionCall host
  valid _ _ _ := True
  guard _ _ _ := True

def adoptionDiscipline (host : Host) : Discipline BridgeStore Held Answer AgentError Unit where
  sys := adoptionSystem host
  ok := Outbox host
  step := OutboxKept
  idle := OutboxKept.refl

/-- From `u` on the program keeps the outbox and sends what is recorded. -/
abbrev Posts (host : Host) {α : Type} (Ret : α → BridgeStore → Prop) (p : BridgeProg α) (u : BridgeStore) : Prop :=
  ∀ own, (adoptionDiscipline host).Vouched (fun _ s q => Posted host s q) (fun _ a s => Ret a s) own p u

section Posts
variable {host : Host} {u s : BridgeStore} {α β : Type}

theorem kept_of_after (h : (adoptionDiscipline host).After u s) : OutboxKept u s :=
  h.lift OutboxKept.refl (fun _ _ _ => OutboxKept.trans) fun _ _ _ hstep => hstep

theorem posts_of_aside {p : BridgeProg α} [hp : Aside p] : Posts host (fun _ _ => True) p u := by
  intro own
  have hfrom : (adoptionDiscipline host).From (fun _ _ => True) p u :=
    Discipline.from_steps hp.steps fun s s' hok h => h.kept hok
  exact Discipline.vouched_of_from hfrom hp.asks fun _ s q hq => posted_of_unmarked host s q hq

theorem Posts.bind {M : α → BridgeStore → Prop} {Ret : β → BridgeStore → Prop} {p : BridgeProg α} {f : α → BridgeProg β}
    (h : Posts host M p u) (hf : ∀ a u', (adoptionDiscipline host).After u u' → M a u' → Posts host Ret (f a) u') :
    Posts host Ret (p >>= f) u :=
  fun own => Discipline.vouched_bind (h own) fun own' a u' hu' _ ha => hf a u' hu' ha own'

theorem Posts.rescue {Ret : α → BridgeStore → Prop} {p : BridgeProg α} {h : AgentError → BridgeProg α} (hp : Posts host Ret p u)
    (hh : ∀ e u', (adoptionDiscipline host).After u u' → Posts host Ret (h e) u') : Posts host Ret (rescue p h) u :=
  fun own => Discipline.Vouched.handle (hp own) fun own' e u' hu' => hh e u' hu' own'

theorem posts_pure {Ret : α → BridgeStore → Prop} {a : α} (h : Ret a u) : Posts host Ret (pure a : BridgeProg α) u := fun _ => h

theorem posts_raise {Ret : α → BridgeStore → Prop} (e : AgentError) : Posts host Ret (raise e : BridgeProg α) u := fun _ => trivial

theorem posts_check {Ret : β → BridgeStore → Prop} {c : Check α} {f : α → BridgeProg β}
    (h : ∀ a, c = .ok a → Posts host Ret (f a) u) : Posts host Ret (liftProg c >>= f) u := by
  cases c with
  | ok a => exact h a rfl
  | error e => exact fun _ => trivial

theorem posts_require {Ret : β → BridgeStore → Prop} {c : Prop} [Decidable c] {e : AgentError} {f : Unit → BridgeProg β}
    (h : c → Posts host Ret (f ()) u) : Posts host Ret (require c e >>= f) u :=
  fun own => Discipline.vouched_require_bind fun hc => h hc own

theorem posts_orRaise {Ret : β → BridgeStore → Prop} {o : Option α} {e : AgentError} {f : α → BridgeProg β}
    (h : ∀ a, o = some a → Posts host Ret (f a) u) : Posts host Ret (orRaise o e >>= f) u :=
  fun own => Discipline.vouched_orRaise_bind fun a ha => h a ha own

theorem posts_read {Ret : β → BridgeStore → Prop} {g : BridgeStore → α} {f : α → BridgeProg β}
    (h : ∀ s, (adoptionDiscipline host).After u s → Outbox host s → Posts host Ret (f (g s)) s) :
    Posts host Ret (atomically (Tx.read g) >>= f) u :=
  fun own => Discipline.vouched_read_bind fun s hs hok => h s hs hok own

theorem posts_ask {Ret : β → BridgeStore → Prop} {q : BridgeQuery} {f : Answer q → BridgeProg β}
    (hq : ∀ s, (adoptionDiscipline host).After u s → Posted host s q) (hf : ∀ a, Posts host Ret (f a) u) :
    Posts host Ret (ask q >>= f) u := fun _ => Discipline.vouched_ask_bind hq fun a => hf a _

theorem posts_transaction {Ret : α → BridgeStore → Prop} {t : BridgeTx α}
    (h : ∀ s, (adoptionDiscipline host).After u s → Outbox host s → ∀ a s', t s = .ok (a,s') →
      (OutboxKept s s' ∧ Outbox host s') ∧ Ret a s') : Posts host Ret (atomically t : BridgeProg α) u :=
  fun _ => Discipline.vouched_transaction fun s hs hok a s' hrun _ => h s hs hok a s' hrun

end Posts

/-! ### Writing the outbox -/

section Writes
variable {host : Host} {kind : ProtocolKind} {id : String} {u s s' : BridgeStore}

theorem updateProtocol_kept {f : ProtocolRow → ProtocolRow} (hf : ∀ row, (f row).payload = row.payload ∧ (f row).digest = row.digest)
    {x : Unit} (hok : Outbox host s) (h : updateProtocol kind id f s = .ok (x,s')) : OutboxKept s s' ∧ Outbox host s' := by
  unfold updateProtocol at h
  cases h
  cases hrow : (s.protocol kind).get? id with
  | none =>
    dsimp only
    rw [hrow]
    exact ⟨.refl s,hok⟩
  | some row =>
    dsimp only
    rw [hrow]
    dsimp only
    refine ⟨fun kind' hkind id' row' hrow' => ?_,hok.candidates,fun kind' hkind id' row' hrow' => ?_⟩
    · dsimp only
      split
      · next heq =>
        subst heq
        rw [Dict.get?_set]
        split
        · next hid =>
          subst hid
          obtain rfl : row' = row := Option.some.inj (hrow'.symm.trans hrow)
          exact ⟨f row',rfl,hf row'⟩
        · exact ⟨row',hrow',rfl,rfl⟩
      · exact ⟨row',hrow',rfl,rfl⟩
    · dsimp only at hrow'
      split at hrow'
      · next heq =>
        subst heq
        rw [Dict.get?_set] at hrow'
        split at hrow'
        · next hid =>
          subst hid
          cases hrow'
          obtain ⟨hwire,hdigest⟩ := hok.records kind' hkind id' row hrow
          obtain ⟨hpayload,hsame⟩ := hf row
          refine ⟨?_,?_⟩
          · rw [hpayload]
            exact hwire
          · rw [hpayload,hsame]
            exact hdigest
        · exact hok.records kind' hkind id' row' hrow'
      · exact hok.records kind' hkind id' row' hrow'

theorem insertProtocol_ok {row : ProtocolRow} {x : Unit} (h : insertProtocol kind id row s = .ok (x,s')) :
    (s.protocol kind).get? id = none ∧
      s' = { s with protocol := fun k => if k = kind then (s.protocol kind).set id row else s.protocol k } := by
  have hpost : (insertProtocol kind id row).Post s fun _ s' => (s.protocol kind).get? id = none ∧
      s' = { s with protocol := fun k => if k = kind then (s.protocol kind).set id row else s.protocol k } := by
    unfold insertProtocol
    rw [Tx.post_bind,Tx.post_read,Tx.post_bind]
    unfold require
    split
    · next hfree => exact ⟨hfree.1,rfl⟩
    · trivial
  exact hpost.of_ok h

theorem insertProtocol_kept {row : ProtocolRow} {x : Unit} (hrow : kind ∈ adoptionKinds → Resendable host kind id row) (hok : Outbox host s)
    (h : insertProtocol kind id row s = .ok (x,s')) : OutboxKept s s' ∧ Outbox host s' := by
  obtain ⟨hnone,rfl⟩ := insertProtocol_ok h
  refine ⟨fun kind' hkind id' row' hrow' => ?_,hok.candidates,fun kind' hkind id' row' hrow' => ?_⟩
  · dsimp only
    split
    · next heq =>
      subst heq
      have hne : id' ≠ id := by
        rintro rfl
        rw [hnone] at hrow'
        cases hrow'
      exact ⟨row',by rw [Dict.get?_set,if_neg hne,hrow'],rfl,rfl⟩
    · exact ⟨row',hrow',rfl,rfl⟩
  · dsimp only at hrow'
    split at hrow'
    · next heq =>
      subst heq
      rw [Dict.get?_set] at hrow'
      split at hrow'
      · next hid =>
        subst hid
        cases hrow'
        exact hrow hkind
      · exact hok.records kind' hkind id' row' hrow'
    · exact hok.records kind' hkind id' row' hrow'

theorem insertFiled_kept {table : FiledKind} {row : FiledRow} {x : Unit} (hrow : table = .candidate → host.Candidate row.payload)
    (hok : Outbox host s) (h : insertFiled table id row s = .ok (x,s')) : OutboxKept s s' ∧ Outbox host s' := by
  have hpost : (insertFiled table id row).Post s fun _ s' =>
      s' = { s with filed := fun k => if k = table then (s.filed table).set id row else s.filed k } := by
    unfold insertFiled
    rw [Tx.post_bind,Tx.post_read,Tx.post_bind]
    unfold require
    split
    · exact rfl
    · trivial
  obtain rfl := hpost.of_ok h
  refine ⟨OutboxKept.refl s,fun id' row' hrow' => ?_,hok.records⟩
  dsimp only at hrow'
  split at hrow'
  · next heq =>
    rw [Dict.get?_set] at hrow'
    split at hrow'
    · cases hrow'
      exact hrow heq.symm
    · rw [← heq] at hrow'
      exact hok.candidates id' row' hrow'
  · exact hok.candidates id' row' hrow'

theorem posts_updateProtocol {f : ProtocolRow → ProtocolRow} (hf : ∀ row, (f row).payload = row.payload ∧ (f row).digest = row.digest) :
    Posts host (fun _ _ => True) (atomically (updateProtocol kind id f) : BridgeProg Unit) u :=
  posts_transaction fun _ _ hok _ _ hrun => ⟨updateProtocol_kept hf hok hrun,trivial⟩

theorem posts_transitionProtocol (state : ProtocolState) (error : Option String) :
    Posts host (fun _ _ => True) (transitionProtocol kind id state error) u := by
  unfold transitionProtocol
  refine posts_ask (fun _ _ => trivial) fun now => ?_
  have hupdate : Posts host (fun _ _ => True) (atomically (updateProtocol kind id fun row =>
      { row with state, attempts := row.attempts + 1, lastError := error, updatedAt := now }) : BridgeProg Unit) u :=
    posts_updateProtocol fun _ => ⟨rfl,rfl⟩
  exact hupdate.bind fun _ u' _ _ => posts_of_aside

theorem posts_recordFiled {table : FiledKind} {row : FiledRow} (hrow : table = .candidate → host.Candidate row.payload) :
    Posts host (fun _ _ => True) (recordFiled table id row) u := by
  unfold recordFiled
  have hinsert : Posts host (fun _ _ => True) (rescue (do
      atomically (insertFiled table id row)
      return true) fun _ => pure false : BridgeProg Bool) u := by
    refine Posts.rescue ?_ fun _ _ _ => posts_pure trivial
    have htx : Posts host (fun _ _ => True) (atomically (insertFiled table id row) : BridgeProg Unit) u :=
      posts_transaction fun _ _ hok _ _ hrun => ⟨insertFiled_kept hrow hok hrun,trivial⟩
    exact htx.bind fun _ _ _ _ => posts_pure trivial
  exact hinsert.bind fun inserted u' _ _ => posts_of_aside

/-- What is recorded under an identity is, from then on, what a message with it has to be. -/
theorem posts_recordProtocol {message : Payload} (hwire : host.adoptionWire kind id message = .ok message) (key : String) :
    Posts host (fun _ s => Posted host s (.sender (.protocol kind) id message))
      (recordProtocol kind id key (host.canonicalDigest message) message) u := by
  have hnew : ∀ now : String, Resendable host kind id ⟨key,host.canonicalDigest message,message,.queued,0,none,now,none⟩ :=
    fun _ => ⟨hwire,rfl⟩
  unfold recordProtocol
  refine posts_read fun s _ _ => ?_
  cases hrow : (s.protocol kind).get? id with
  | some row =>
    refine posts_require fun hsame => posts_pure fun _ => ?_
    exact ⟨row,hrow,hsame.2,hsame.1.symm⟩
  | none =>
    refine posts_read fun s' _ _ => posts_require fun _ => posts_ask (fun _ _ => trivial) fun now => ?_
    have hinsert : Posts host (fun inserted s => inserted = true → Posted host s (.sender (.protocol kind) id message)) (rescue (do
        atomically (insertProtocol kind id ⟨key,host.canonicalDigest message,message,.queued,0,none,now,none⟩)
        return true) fun _ => pure false : BridgeProg Bool) s' := by
      refine Posts.rescue ?_ fun _ _ _ => posts_pure nofun
      have htx : Posts host (fun _ s => Posted host s (.sender (.protocol kind) id message))
          (atomically (insertProtocol kind id ⟨key,host.canonicalDigest message,message,.queued,0,none,now,none⟩) : BridgeProg Unit)
          s' := by
        refine posts_transaction fun s _ hok _ s'' hrun => ⟨insertProtocol_kept (fun _ => hnew now) hok hrun,fun _ => ?_⟩
        obtain ⟨-,rfl⟩ := insertProtocol_ok hrun
        refine ⟨⟨key,host.canonicalDigest message,message,.queued,0,none,now,none⟩,?_,Payload.alike_refl message,rfl⟩
        dsimp only
        rw [if_pos rfl,Dict.get?_set,if_pos rfl]
      exact htx.bind fun _ _ _ hposted => posts_pure fun _ => hposted
    refine hinsert.bind fun inserted u' _ hinserted => ?_
    refine posts_read fun s'' hs'' _ => posts_orRaise fun stored hstored => ?_
    split
    · next hin => exact posts_pure ((hinserted hin).kept (kept_of_after hs''))
    · refine posts_require fun hsame => posts_pure fun _ => ?_
      exact ⟨stored,hstored,hsame.2,hsame.1.symm⟩

end Writes

/-! ### The calls -/

section Calls
variable (b : Bridge) {kind : ProtocolKind} {id : String} {u : BridgeStore}

theorem posts_adoptionDelivered (message response : Payload) :
    Posts b.host (fun _ _ => True) (b.adoptionDelivered kind id message response) u := by
  unfold Bridge.adoptionDelivered
  refine posts_check fun _ _ => posts_ask (fun _ _ => trivial) fun now => ?_
  have hupdate : Posts b.host (fun _ _ => True) (atomically (updateProtocol kind id fun row =>
      { row with state := .delivered, attempts := row.attempts + 1, lastError := none, updatedAt := now, receipt := some response }) :
      BridgeProg Unit) u := posts_updateProtocol fun _ => ⟨rfl,rfl⟩
  exact hupdate.bind fun _ u' _ _ => posts_of_aside

theorem posts_persistAdoptionPeer {message : Payload} (hwire : b.host.adoptionWire kind id message = .ok message) :
    Posts b.host (fun _ _ => True) (b.persistAdoptionPeer kind id message) u := by
  unfold Bridge.persistAdoptionPeer
  refine (posts_recordProtocol hwire _).bind ?_
  rintro ⟨row,inserted⟩ u' - hposted
  dsimp only
  split
  · exact posts_pure trivial
  · refine Posts.rescue ?_ fun e u'' _ => ?_
    · refine posts_ask (fun s hs => hposted.kept (kept_of_after hs)) fun answer => ?_
      exact posts_orRaise fun response _ => posts_adoptionDelivered b message response
    · exact (posts_transitionProtocol _ _).bind fun _ _ _ _ => posts_raise _

theorem posts_registerCandidate (payload : Payload) : Posts b.host (fun _ _ => True) (b.registerCandidate payload) u := by
  unfold Bridge.registerCandidate
  refine posts_ask (fun _ _ => trivial) fun clock => ?_
  dsimp only
  refine posts_check fun candidate hparsed => ?_
  obtain ⟨rfl,hcandidate⟩ := parseRegistryCandidate_ok.mp hparsed
  refine (posts_recordFiled fun _ => hcandidate).bind fun inserted u' _ _ => ?_
  refine posts_read fun s _ hok => posts_orRaise fun stored hstored => ?_
  refine (posts_persistAdoptionPeer b ?_).bind fun row _ _ _ => posts_pure trivial
  exact adoptionWire_registry (hok.candidates _ stored hstored) _

theorem posts_ensureCandidateDelivered {candidate : Payload} (hcandidate : b.host.Candidate candidate) (candidateId : String) :
    Posts b.host (fun _ _ => True) (b.ensureCandidateDelivered candidateId candidate) u := by
  unfold Bridge.ensureCandidateDelivered
  refine posts_read fun s _ _ => ?_
  split
  · exact posts_pure trivial
  · exact (posts_persistAdoptionPeer b (adoptionWire_registry hcandidate _)).bind fun _ _ _ _ => posts_pure trivial

theorem posts_recordAdoptionEvidence (payload : Payload) :
    Posts b.host (fun _ _ => True) (b.recordAdoptionEvidence payload) u := by
  unfold Bridge.recordAdoptionEvidence
  refine posts_ask (fun _ _ => trivial) fun clock => ?_
  dsimp only
  refine posts_check fun evidence hparsed => ?_
  have hevidence := evidence_of_parsed hparsed
  refine posts_read fun s _ hok => posts_orRaise fun candidate hcandidate => ?_
  refine posts_check fun registry _ => posts_require fun _ => posts_check fun _ _ => ?_
  refine (posts_ensureCandidateDelivered b (hok.candidates _ candidate hcandidate) _).bind fun _ u' _ _ => ?_
  have hfiled : Posts b.host (fun _ _ => True) (recordFiled .evidence (evidence.get "assessmentId").text
      ⟨evidence,b.host.canonicalDigest evidence⟩) u' := posts_recordFiled nofun
  refine hfiled.bind fun inserted u'' _ _ => ?_
  refine (posts_persistAdoptionPeer b (adoptionWire_evidence hevidence _)).bind fun row u₃ _ _ => ?_
  exact posts_of_aside

theorem posts_forwardAdoptionRecord {row : ProtocolRow} (hkind : kind ∈ adoptionKinds) (hrow : Resendable b.host kind id row)
    (hstored : ∃ row', (u.protocol kind).get? id = some row' ∧ row'.payload = row.payload ∧ row'.digest = row.digest) :
    Posts b.host (fun _ _ => True) (b.adopting.forwardAdoptionRecord kind id row) u := by
  unfold Bridge.forwardAdoptionRecord
  refine posts_check fun wire hwire => ?_
  obtain rfl : row.payload = wire := Except.ok.inj (hrow.wire.symm.trans hwire)
  refine posts_require fun _ => posts_ask (fun s hs _ => ?_) fun answer => ?_
  · obtain ⟨row',hrow',hpayload,hdigest⟩ := hstored
    obtain ⟨row'',hrow'',hpayload',hdigest'⟩ := kept_of_after hs kind hkind id row' hrow'
    refine ⟨row'',hrow'',?_,?_⟩
    · rw [hpayload',hpayload]
      exact Payload.alike_refl _
    · rw [hrow.digest,← hdigest,← hdigest']
  · refine posts_orRaise fun response _ => posts_check fun _ _ => posts_ask (fun _ _ => trivial) fun now => ?_
    have hupdate : Posts b.host (fun _ _ => True) (atomically (updateProtocol kind id fun row =>
        { row with state := .delivered, attempts := row.attempts + 1, lastError := none, updatedAt := now, receipt := some response }) :
        BridgeProg Unit) u := posts_updateProtocol fun _ => ⟨rfl,rfl⟩
    exact hupdate.bind fun _ u' _ _ => posts_of_aside

theorem posts_attempt {id error : String} (report : Bridge.PassReport) {work : BridgeProg Unit}
    (hwork : Posts b.host (fun _ _ => True) work u) : Posts b.host (fun _ _ => True) (Bridge.attempt kind id error report work) u := by
  unfold Bridge.attempt
  refine Posts.rescue (hwork.bind fun _ _ _ _ => posts_pure trivial) fun _ u' _ => ?_
  exact (posts_transitionProtocol _ _).bind fun _ _ _ _ => posts_pure trivial

/-- A row that was read from the outbox. -/
structure Pending (host : Host) (kind : ProtocolKind) (s : BridgeStore) (e : String × ProtocolRow) : Prop where
  resendable : Resendable host kind e.1 e.2
  stored : ∃ row, (s.protocol kind).get? e.1 = some row ∧ row.payload = e.2.payload ∧ row.digest = e.2.digest

theorem Pending.kept {host : Host} {s s' : BridgeStore} {e : String × ProtocolRow} (h : Pending host kind s e)
    (hkind : kind ∈ adoptionKinds) (hkept : OutboxKept s s') : Pending host kind s' e := by
  obtain ⟨hresendable,row,hrow,hpayload,hdigest⟩ := h
  obtain ⟨row',hrow',hpayload',hdigest'⟩ := hkept kind hkind e.1 row hrow
  exact ⟨hresendable,row',hrow',hpayload'.trans hpayload,hdigest'.trans hdigest⟩

theorem pending_of_read {host : Host} {s : BridgeStore} (hok : Outbox host s) (hkind : kind ∈ adoptionKinds) (limit : ℕ) :
    ∀ e ∈ pendingProtocol kind limit s, Pending host kind s e := by
  intro e he
  have hentry : e ∈ (s.protocol kind).entries :=
    (List.mem_filter.mp ((List.mem_insertionSort _).mp (List.mem_of_mem_take he))).1
  have hrow := (Dict.mem_entries_iff _ _ _).mp hentry
  exact ⟨hok.records kind hkind e.1 e.2 hrow,e.2,hrow,rfl,rfl⟩

theorem posts_recoverAll (hkind : kind ∈ adoptionKinds) (report : Bridge.PassReport) (records : List (String × ProtocolRow))
    (hrecords : ∀ e ∈ records, Pending b.host kind u e) :
    Posts b.host (fun _ _ => True) (b.adopting.recoverAll kind report records) u := by
  induction records generalizing report u with
  | nil => exact posts_pure trivial
  | cons e rest ih =>
    unfold Bridge.recoverAll
    have hrest := fun e' he' => hrecords e' (List.mem_cons_of_mem _ he')
    split
    · exact ih report hrest
    · have hforward : Posts b.host (fun _ _ => True) (b.adopting.recoverRecord kind e.1 e.2) u := by
        obtain ⟨hresendable,hstored⟩ := hrecords e List.mem_cons_self
        have hposts := posts_forwardAdoptionRecord b hkind hresendable hstored
        simp only [adoptionKinds,List.mem_cons,List.not_mem_nil,or_false] at hkind
        rcases hkind with rfl | rfl <;> exact hposts
      refine (posts_attempt b report hforward).bind fun report' u' hu' _ => ih report' fun e' he' => ?_
      exact (hrest e' he').kept hkind (kept_of_after hu')

theorem aside_recoverAll (kind : ProtocolKind) [OtherKind kind] (report : Bridge.PassReport) (records : List (String × ProtocolRow)) :
    Aside (b.recoverAll kind report records) := by
  induction records generalizing report with
  | nil =>
    unfold Bridge.recoverAll
    infer_instance
  | cons e rest ih =>
    have := aside_recoverRecord b kind e.1 e.2
    unfold Bridge.recoverAll Bridge.attempt
    infer_instance

theorem posts_recoverKinds (report : Bridge.PassReport) (kinds : List ProtocolKind) :
    Posts b.host (fun _ _ => True) (b.adopting.recoverKinds report kinds) u := by
  induction kinds generalizing report u with
  | nil => exact posts_pure trivial
  | cons kind rest ih =>
    unfold Bridge.recoverKinds
    refine posts_read fun s _ hok => ?_
    by_cases hkind : kind ∈ adoptionKinds
    · exact (posts_recoverAll b hkind report _ (pending_of_read hok hkind 100)).bind fun report' u' _ _ => ih report'
    · have : OtherKind kind := ⟨hkind⟩
      have := aside_recoverAll b.adopting kind report (pendingProtocol kind 100 s)
      exact posts_of_aside.bind fun report' u' _ _ => ih report'

end Calls

theorem posts_of_call {host : Host} {p : BridgeProg Unit} (hp : AdoptionCall host p) (u : BridgeStore) :
    Posts host (fun _ _ => True) p u := by
  cases hp with
  | register b hb payload =>
    subst hb
    exact (posts_registerCandidate b payload).bind fun _ _ _ _ => posts_pure trivial
  | record b hb payload =>
    subst hb
    exact (posts_recordAdoptionEvidence b payload).bind fun _ _ _ _ => posts_pure trivial
  | recover b hb =>
    subst hb
    exact (posts_recoverKinds b {} Bridge.recoveredKinds).bind fun _ _ _ _ => posts_pure trivial
  | other hp => exact posts_of_aside

/-! ### Runs -/

/-- The store has no adoption records. -/
def BridgeStore.Unadopted (s : BridgeStore) : Prop := (∀ kind ∈ adoptionKinds, s.protocol kind = .empty) ∧ s.filed .candidate = .empty

theorem outbox_of_unadopted (host : Host) {s : BridgeStore} (h : s.Unadopted) : Outbox host s where
  candidates id row hrow := by
    rw [h.2] at hrow
    cases hrow
  records kind hkind id row hrow := by
    rw [h.1 kind hkind] at hrow
    cases hrow

/-- What recovery does with a record that is resendable: it sends the message of the row. -/
def Bridge.resend (b : Bridge) (kind : ProtocolKind) (id : String) (row : ProtocolRow) : BridgeProg Unit := do
  let response ← orRaise (← ask (.sender (.protocol kind) id row.payload)) outsideError
  ignoring (b.adoptionDelivered kind id row.payload response)

theorem forwardAdoptionRecord_eq {b : Bridge} {kind : ProtocolKind} {id : String} {row : ProtocolRow}
    (h : Resendable b.host kind id row) : b.adopting.forwardAdoptionRecord kind id row = b.resend kind id row := by
  have hwire : b.adopting.adoptionWire kind id row.payload = .ok row.payload := h.wire
  have hchecked : (require (b.adopting.host.canonicalDigest row.payload = row.digest) (valueError "adoption protocol digest conflict") :
      BridgeProg Unit) = pure () := if_pos h.digest
  unfold Bridge.forwardAdoptionRecord Bridge.resend Bridge.adoptionDelivered ignoring
  rw [hwire]
  change (require _ _ >>= _ : BridgeProg Unit) = _
  rw [hchecked]
  simp only [Prog.bind_bind]
  rfl

/-- A candidate or evidence that is accepted becomes a message that recovery makes again out of itself. In every run over a
store that began without adoption records, what goes out for a record is what the record holds, and
recovery makes just that message again and sends it. -/
theorem recovery_resends {host : Host} {s₀ : BridgeStore} (h₀ : s₀.Unadopted) {w : BridgeWorld}
    (h : World.Reachable (adoptionSystem host) (World.init s₀) w) :
    (∀ (payload candidate : Payload) (id : String), host.parseRegistryCandidate payload = .ok candidate →
      host.adoptionWire .registryCandidate id (Host.registryWirePayload candidate) = .ok (Host.registryWirePayload candidate)) ∧
    (∀ (payload evidence : Payload) (id : String), host.parseAdoptionEvidence payload = .ok evidence →
      host.adoptionWire .adoptionEvidence id (Host.adoptionWirePayload evidence) = .ok (Host.adoptionWirePayload evidence)) ∧
    (∀ kind ∈ adoptionKinds, ∀ e ∈ w.trace.log, ∀ id message, e.2.1 = .sender (.protocol kind) id message →
      ∃ row, (w.trace.store.protocol kind).get? id = some row ∧ row.payload.alike message = true ∧
        host.canonicalDigest message = row.digest) ∧
    ∀ kind ∈ adoptionKinds, ∀ id row, (w.trace.store.protocol kind).get? id = some row →
      host.adoptionWire kind id row.payload = .ok row.payload ∧ host.canonicalDigest row.payload = row.digest ∧
      ∀ b : Bridge, b.host = host → b.adopting.forwardAdoptionRecord kind id row = b.resend kind id row := by
  obtain ⟨hok,hlog⟩ := World.Reachable.vouched_log (D := adoptionDiscipline host) (Posted host)
    (fun p hp u => posts_of_call hp u []) (fun _ _ _ hstep hposted => hposted.kept hstep) (outbox_of_unadopted host h₀) h
  refine ⟨fun payload candidate id hparsed => ?_,fun payload evidence id hparsed => ?_,
    fun kind hkind e he id message hmessage => ?_,fun kind hkind id row hrow => ?_⟩
  · obtain ⟨rfl,hcandidate⟩ := parseRegistryCandidate_ok.mp hparsed
    exact adoptionWire_registry hcandidate id
  · exact adoptionWire_evidence (evidence_of_parsed hparsed) id
  · have hposted := hlog e he
    rw [hmessage] at hposted
    exact hposted hkind
  · have hresendable := hok.records kind hkind id row hrow
    refine ⟨hresendable.wire,hresendable.digest,fun b hb => ?_⟩
    subst hb
    exact forwardAdoptionRecord_eq hresendable

/-! ### Records that are sent twice -/

/-- A host that tells the text for its digest. -/
def adoptingHost : Host where
  sha256 text := text
  fromisoformat text := if text = "t" then some ⟨true,0⟩ else none

def exampleDigest : String := "0123456789abcdef0123456789abcdef0123456789abcdef0123456789abcdef"

def exampleCandidate : Payload := .ofList [("candidateId",.str "c"),("targetProjectId",.str "p"),("registryId",.str "r"),
  ("registryDigest",.str exampleDigest),("evidenceIds",.arr [.str "e"]),("evidenceDigests",.arr [.str exampleDigest]),
  ("evidenceKinds",.arr [.str "plan"]),("canonical",.bool true)]

def exampleEvidence : Payload := .ofList [("candidateId",.str "c"),("assessmentId",.str "a"),
  ("registry",.obj [("registryId",.str "r"),("registryDigest",.str exampleDigest),("evidenceIds",.arr [.str "e"]),("canonical",.bool true)]),
  ("evidence",.arr [.obj [("reason",.str "active-plan"),("kind",.str "plan"),("evidenceId",.str "e"),("digest",.str exampleDigest)]])]

/-- The peer does not answer. -/
def silentPeer : (q : BridgeQuery) → Answer q
  | .sender _ _ _ => none
  | q => plainAnswers q

def adoptingBridge : Bridge := { host := adoptingHost }

/-- The `i`-th call records something while the peer is silent, and recovery sends it again. -/
def resentRun (i n : ℕ) (call : BridgeProg AdoptionReceipt) : List (Move BridgeStore Held Answer AgentError Unit) :=
  (.start (ignoring call) :: World.steps i n silentPeer) ++
    (.start (ignoring adoptingBridge.adopting.recoverProtocolRecords) :: World.steps (i + 1) 16 plainAnswers)

def adoptionRun : List (Move BridgeStore Held Answer AgentError Unit) :=
  resentRun 0 12 (adoptingBridge.registerCandidate exampleCandidate) ++
    resentRun 2 13 (adoptingBridge.recordAdoptionEvidence exampleEvidence)

def messagesOf (kind : ProtocolKind) (id : String) (t : BridgeTrace) : ℕ := t.log.countP fun e => match e.2.1 with
  | .sender (.protocol k) j _ => k = kind ∧ j = id
  | _ => false

/-- Both are sent twice, as they are stored. -/
theorem recovery_resends_adoption : ∃ w : BridgeWorld, World.Reachable (adoptionSystem adoptingHost) (World.init {}) w ∧
    messagesOf .registryCandidate "c" w.trace = 2 ∧ messagesOf .adoptionEvidence "a" w.trace = 2 ∧
    ∀ kind ∈ adoptionKinds, ∀ e ∈ w.trace.log, ∀ id message, e.2.1 = .sender (.protocol kind) id message →
      ∃ row, (w.trace.store.protocol kind).get? id = some row ∧ row.payload.alike message = true ∧
        adoptingHost.adoptionWire kind id row.payload = .ok row.payload := by
  have hrecover : (Move.start (ignoring adoptingBridge.adopting.recoverProtocolRecords)).Allowed (adoptionSystem adoptingHost) :=
    AdoptionCall.recover adoptingBridge rfl
  have hallowed : ∀ mv ∈ adoptionRun, mv.Allowed (adoptionSystem adoptingHost) := by
    simp only [adoptionRun,resentRun,List.forall_mem_append,List.forall_mem_cons]
    exact ⟨⟨⟨AdoptionCall.register adoptingBridge rfl _,World.allowed_steps _ _ _⟩,hrecover,World.allowed_steps _ _ _⟩,
      ⟨AdoptionCall.record adoptingBridge rfl _,World.allowed_steps _ _ _⟩,hrecover,World.allowed_steps _ _ _⟩
  have hplay : ((World.init {}).play (fun _ _ _ => true) (fun _ _ _ => true) adoptionRun).any
      (fun w => messagesOf .registryCandidate "c" w.trace = 2 ∧ messagesOf .adoptionEvidence "a" w.trace = 2) = true := by decide +kernel
  obtain ⟨w,hw,hc⟩ := World.exists_reachable _ _ _ (fun _ _ _ _ => trivial) (fun _ _ _ _ => trivial) hallowed hplay
  obtain ⟨hcandidate,hevidence⟩ := of_decide_eq_true hc
  obtain ⟨-,-,hsent,hrows⟩ := recovery_resends ⟨fun _ _ => rfl,rfl⟩ hw
  refine ⟨w,hw,hcandidate,hevidence,fun kind hkind e he id message hmessage => ?_⟩
  obtain ⟨row,hrow,halike,-⟩ := hsent kind hkind e he id message hmessage
  exact ⟨row,hrow,halike,(hrows kind hkind id row hrow).1⟩

end Overseer.Psychlo
