import Overseer.Psychlo.Approvals

/-! # One approval, one operation

A session is a sequence of authorized calls, of changes to the approvals and plans, and of
whatever else happens to the store between them. The calls that one approval was found to
authorize are on one target, of one kind, and of one payload.
-/
namespace Overseer.Psychlo
open Overseer.Library Overseer.Agent

/-- The records of the administrative store. -/
structure Administration where
  approvals : Dict Core.ApprovalRequest := .empty
  plans : Dict Core.AdminChangePlan := .empty

namespace Administration
variable (admin : Administration)

/-- `_load_primary_approval`. -/
def load (approvalId : String) : Option (Core.ApprovalRequest × Core.AdminChangePlan) := do
  let approval ← admin.approvals.get? approvalId
  let plan ← admin.plans.get? approval.subjectId
  return (approval,plan)

/-- What a call is told while the records are these. -/
def Tells : (q : BridgeQuery) → Answer q → Prop
  | .loadApproval approvalId, answer => answer = admin.load approvalId
  | _, _ => True

/-- A human other than the services has approved it, and its plan stands. -/
structure Approves (approvalId : String) : Prop where
  approved : ∃ approval plan person, admin.load approvalId = some (approval,plan) ∧ approval.status = .approved ∧
    approval.approvalLevel = .human ∧ approval.decidedBy = some person ∧ isBlank person = false ∧ isServiceName person = false ∧
    plan.approved = true ∧ plan.canceled = false ∧ plan.archived = false

end Administration

/-! ### What a call finds and leaves -/

/-- The stored authority is for the operation. -/
structure Covers (host : Host) (row : SnapshotRow) (a : Authorized) (record : Payload) : Prop where
  read : Payload.ofJson? (row.payload.get "record") = some record
  action : ∃ action ∈ a.kind.aliases, record.get "action" = .str action
  target : (a.input.get a.kind.targetField).alike (record.get "target") = true
  digest : record.get "payloadDigest" = .str (host.canonicalDigest a.input)

/-- The outcomes of a call: it is refused, or covered by a stored authority, or the first to
be authorized. -/
inductive Initiated (host : Host) (admin : Administration) (s : BridgeStore) : Except AgentError Authorized → BridgeStore → Prop where
  | refused (e : AgentError) : Initiated host admin s (.error e) s
  | covered (a : Authorized) (row : SnapshotRow) (record : Payload) (hrow : s.snapshots.get? a.approvalId = some row)
      (h : Covers host row a record) : Initiated host admin s (.ok a) s
  | first (a : Authorized) (row : SnapshotRow) (record : Payload) (hnone : s.snapshots.get? a.approvalId = none)
      (h : Covers host row a record) (target : String) (htarget : record.get "target" = .str target)
      (happroves : admin.Approves a.approvalId) :
      Initiated host admin s (.ok a) { s with snapshots := s.snapshots.set a.approvalId row }

theorem memberOf_ok {v : Json} {choices : List String} (h : memberOf v choices = .ok true) : ∃ c ∈ choices, v = .str c := by
  unfold memberOf at h
  split at h
  · have hany : (choices.any fun c => v = .str c) = true := Except.ok.inj h
    obtain ⟨c,hc,hv⟩ := List.any_eq_true.mp hany
    exact ⟨c,hc,of_decide_eq_true hv⟩
  · cases h

section Calls
variable {b : Bridge} {approvalId : String} {payload : Payload} {kind : AuthorizedKind} {s : BridgeStore} {admin : Administration}

theorem checkSnapshot_covers {row : SnapshotRow} {record : Payload} (h : b.checkSnapshot approvalId payload kind row = .ok record) :
    Covers b.host row ⟨approvalId,kind,payload⟩ record := by
  unfold Bridge.checkSnapshot at h
  obtain ⟨record',hread,h⟩ := check_bind h
  obtain ⟨_,-,h⟩ := check_bind h
  obtain ⟨known,hknown,h⟩ := check_bind h
  obtain ⟨_,haction,h⟩ := check_bind h
  obtain ⟨_,-,h⟩ := check_bind h
  obtain ⟨_,hmatch,h⟩ := check_bind h
  cases h
  rw [check_ok] at haction hmatch
  rw [haction] at hknown
  exact ⟨found_ok.mp hread,memberOf_ok hknown,hmatch.1,hmatch.2⟩

theorem checkApproval_independent {approval : Core.ApprovalRequest} {person : String}
    (h : checkApproval approvalId approval = .ok person) : approval.status = .approved ∧ approval.approvalLevel = .human ∧
      approval.decidedBy = some person ∧ isBlank person = false ∧ isServiceName person = false := by
  unfold checkApproval at h
  obtain ⟨_,-,h⟩ := check_bind h
  obtain ⟨_,happroved,h⟩ := check_bind h
  rw [check_ok] at happroved
  obtain ⟨hdecided,hperson⟩ := Option.filter_eq_some_iff.mp (found_ok.mp h)
  have hindependent := of_decide_eq_true hperson
  exact ⟨happroved.1,happroved.2,hdecided,hindependent.1,hindependent.2⟩

/-- What a plan authorizes, as it is stored, covers the operation it was checked against. -/
theorem checkSubject_covers {approval : Core.ApprovalRequest} {plan : Core.AdminChangePlan} {person : String} {record : Payload}
    (h : b.checkSubject approval person plan payload kind = .ok record) :
    (plan.approved = true ∧ plan.canceled = false ∧ plan.archived = false) ∧ (∃ target, record.get "target" = .str target) ∧
      ∀ digest, Covers b.host ⟨digest,authoritySnapshot record approval plan⟩ ⟨approvalId,kind,payload⟩ record := by
  unfold Bridge.checkSubject at h
  obtain ⟨_,hplan,h⟩ := check_bind h
  obtain ⟨_,-,h⟩ := check_bind h
  obtain ⟨known,hknown,h⟩ := check_bind h
  obtain ⟨_,haction,h⟩ := check_bind h
  obtain ⟨target,-,h⟩ := check_bind h
  obtain ⟨_,htarget,h⟩ := check_bind h
  obtain ⟨_,-,h⟩ := check_bind h
  obtain ⟨_,-,h⟩ := check_bind h
  obtain ⟨evidence,-,h⟩ := check_bind h
  obtain ⟨_,-,h⟩ := check_bind h
  rw [check_ok] at hplan haction htarget
  rw [haction] at hknown
  obtain ⟨action,hmem,hstr⟩ := memberOf_ok hknown
  rw [hstr] at h
  cases h
  let members : List (String × Json) := [("id",.str approval.id),("subjectId",.str approval.subjectId),
    ("ownerDomain",.str approval.ownerDomain.value),("decidedBy",.str person),("decidedAt",textOrNull approval.decidedAt),
    ("action",.str action),("target",.str target),("payloadDigest",.str (b.host.canonicalDigest payload)),
    ("evidence",.arr (evidence.map .str))]
  have hkeys : (members.map Prod.fst).Nodup := by
    have hnodup : ["id","subjectId","ownerDomain","decidedBy","decidedAt","action","target","payloadDigest","evidence"].Nodup := by decide
    exact hnodup
  have hget : ∀ k v, (k,v) ∈ members → (Payload.ofList members).get k = v := by
    intro k v hv
    rw [Payload.get,Payload.get?_ofList hkeys hv]
    rfl
  have hrecordTarget := hget "target" (.str target) (by simp [members])
  refine ⟨hplan.2,⟨target,hrecordTarget⟩,fun digest => ?_⟩
  constructor
  · have hrecord : (authoritySnapshot (Payload.ofList members) approval plan).get "record" = .obj (Payload.ofList members).entries := by
      unfold authoritySnapshot Payload.get
      rw [Payload.get?_ofList (by simp) List.mem_cons_self]
      rfl
    rw [hrecord]
    exact Payload.ofJson?_entries _
  · exact ⟨action,hmem,hget "action" (.str action) (by simp [members])⟩
  · have halike : (payload.get kind.targetField).alike ((Payload.ofList members).get "target") = true := by
      rw [htarget,hrecordTarget]
      exact Json.alike_refl _
    exact halike
  · exact hget "payloadDigest" _ (by simp [members])

theorem saveApprovalSnapshot_ok {record : Payload} {digest : String} {row : SnapshotRow} {s' : BridgeStore}
    (hnone : s.snapshots.get? approvalId = none) (h : saveApprovalSnapshot approvalId record digest s = .ok (row,s')) :
    s' = { s with snapshots := s.snapshots.set approvalId ⟨digest,record⟩ } := by
  have hsave : (saveApprovalSnapshot approvalId record digest).Post s
      fun _ s' => s' = { s with snapshots := s.snapshots.set approvalId ⟨digest,record⟩ } := by
    simp only [saveApprovalSnapshot,approvalSnapshot,Tx.post_bind,Tx.post_require,Tx.post_read,hnone,Tx.post_write,Tx.post_pure,
      implies_true]
  exact hsave.of_ok h

theorem wp_liftProg_bind {α β : Type} {valid : (q : BridgeQuery) → Answer q → Prop} {I : BridgeStore → Prop}
    {Post : Except AgentError β → BridgeStore → Prop} {c : Check α} {f : α → BridgeProg β} (hs : I s)
    (herror : ∀ e, c = .error e → Post (.error e) s) (h : ∀ a, c = .ok a → (f a).Wp valid I Post s) :
    (liftProg c >>= f).Wp valid I Post s := by
  cases c with
  | error e => exact ⟨hs,herror e rfl⟩
  | ok a => exact h a rfl

theorem wp_reads_bind {α β : Type} {valid : (q : BridgeQuery) → Answer q → Prop} {I : BridgeStore → Prop}
    {Post : Except AgentError β → BridgeStore → Prop} {p : BridgeProg α} {f : α → BridgeProg β}
    (hp : p.Steps fun s _ s' => s' = s) (hs : I s) (herror : ∀ e, Post (.error e) s) (h : ∀ a, (f a).Wp valid I Post s) :
    (p >>= f).Wp valid I Post s := by
  have hfirst : p.Wp valid I (fun _ s' => s' = s) s := Prog.wp_of_same hp hs
  refine Prog.Wp.bind (hfirst.mono (fun _ h => h) fun r s' _ hsame => ?_)
  rw [hsame]
  cases r with
  | ok a => exact h a
  | error e => exact herror e

theorem checkDecidedAt_steps (decidedAt : Option String) : (b.checkDecidedAt decidedAt).Steps fun s _ s' => s' = s := by
  have hfree : Prog.Unmarked (fun _ : BridgeQuery => False) .clock := ⟨id⟩
  have htame : Prog.Tame (fun s s' : BridgeStore => s' = s) (fun _ : BridgeQuery => False) (b.checkDecidedAt decidedAt) := by
    unfold Bridge.checkDecidedAt
    split <;> infer_instance
  exact htame.steps

/-- The outcome of the check, told as the outcome of the call. -/
abbrev Answered (b : Bridge) (admin : Administration) (a : Authorized) (s : BridgeStore) (r : Except AgentError Payload)
    (s' : BridgeStore) : Prop := Initiated b.host admin s (r.map fun _ => a) s'

theorem readAuthority_spec {loaded : Core.ApprovalRequest × Core.AdminChangePlan} (hnone : s.snapshots.get? approvalId = none)
    (hload : admin.load approvalId = some loaded) :
    (b.readAuthority approvalId payload kind loaded).Wp admin.Tells (fun _ => True)
      (Answered b admin ⟨approvalId,kind,payload⟩ s) s := by
  obtain ⟨approval,plan⟩ := loaded
  unfold Bridge.readAuthority
  refine wp_liftProg_bind trivial (fun e _ => .refused e) fun person hperson => ?_
  obtain ⟨happroved,hlevel,hdecided,hblank,hservice⟩ := checkApproval_independent hperson
  refine wp_reads_bind (checkDecidedAt_steps _) trivial (fun e => .refused e) fun _ => ?_
  refine wp_liftProg_bind trivial (fun e _ => .refused e) fun record hrecord => ?_
  obtain ⟨hplan,⟨target,htarget⟩,hcovers⟩ := checkSubject_covers hrecord
  have happroves : admin.Approves approvalId :=
    ⟨approval,plan,person,hload,happroved,hlevel,hdecided,hblank,hservice,hplan⟩
  refine Prog.wp_atomically_bind trivial (fun row s' hsave => ?_) fun e _ => .refused e
  rw [saveApprovalSnapshot_ok hnone hsave]
  exact ⟨trivial,.first ⟨approvalId,kind,payload⟩ _ record hnone (hcovers _) target htarget happroves⟩

theorem checkSnapshot_spec {row : SnapshotRow} (hrow : s.snapshots.get? approvalId = some row) :
    (liftProg (b.checkSnapshot approvalId payload kind row)).Wp admin.Tells (fun _ => True)
      (Answered b admin ⟨approvalId,kind,payload⟩ s) s := by
  cases hcheck : b.checkSnapshot approvalId payload kind row with
  | error e => exact ⟨trivial,.refused e⟩
  | ok record => exact ⟨trivial,.covered ⟨approvalId,kind,payload⟩ row record hrow (checkSnapshot_covers hcheck)⟩

theorem approvedAdminRecord_spec : (b.approvedAdminRecord approvalId payload kind).Wp admin.Tells (fun _ => True)
    (Answered b admin ⟨approvalId,kind,payload⟩ s) s := by
  unfold Bridge.approvedAdminRecord
  refine Prog.wp_require_bind trivial (fun _ => .refused _) fun _ => ?_
  refine Prog.wp_require_bind trivial (fun _ => .refused _) fun _ => ?_
  refine Prog.wp_read_bind trivial ?_
  split
  · next row hrow => exact checkSnapshot_spec hrow
  · next hnone =>
    refine Prog.wp_ask_bind trivial fun answer hanswer => ?_
    refine Prog.wp_orRaise_bind trivial (fun _ => .refused _) fun loaded hloaded => ?_
    refine Prog.wp_read_bind trivial ?_
    split
    · next row hrow => exact checkSnapshot_spec hrow
    · exact readAuthority_spec hnone (hanswer.symm.trans hloaded)

/-- The input of an authorized call is the one it was given. -/
structure Asked (request : Payload) (r : Except AgentError Authorized) : Prop where
  input : ∀ a, r = .ok a → Payload.ofJson? (request.get "input") = some a.input

theorem initiateAuthorized_spec {name : String} {request : Payload} :
    (b.initiateAuthorized name request).Wp admin.Tells (fun _ => True)
      (fun r s' => Initiated b.host admin s r s' ∧ Asked request r) s := by
  have hrefused : ∀ e, Initiated b.host admin s (.error e) s ∧ Asked request (.error e) :=
    fun e => ⟨.refused e,⟨fun _ h => (by cases h)⟩⟩
  unfold Bridge.initiateAuthorized
  refine Prog.wp_require_bind trivial (fun _ => hrefused _) fun _ => ?_
  refine Prog.wp_orRaise_bind trivial (fun _ => hrefused _) fun approvalId _ => ?_
  refine Prog.wp_orRaise_bind trivial (fun _ => hrefused _) fun input hinput => ?_
  refine Prog.wp_orRaise_bind trivial (fun _ => hrefused _) fun kind _ => ?_
  refine Prog.Wp.bind (approvedAdminRecord_spec.mono (fun _ h => h) fun r s' _ h => ?_)
  cases r with
  | error e =>
    cases h
    exact hrefused e
  | ok record => exact ⟨trivial,h,⟨fun a ha => by cases ha; exact hinput⟩⟩

end Calls

/-! ### Sessions -/

/-- The bridge's store and the administrative one. -/
structure Office where
  store : BridgeStore
  admin : Administration

/-- An operation that was authorized, and the records as they were then. -/
structure Passed where
  operation : Authorized
  office : Office

/-- What a call adds to the operations that were authorized. -/
def passedOf (o : Office) : Except AgentError Authorized → List Passed
  | .ok a => [⟨a,o⟩]
  | .error _ => []

/-- The operations authorized so far, and where the session has come to. A call that is cut off
has saved nothing or has passed; what follows it, a restart and all other work leave the
snapshots as they are. -/
inductive Session (host : Host) (o₀ : Office) : List Passed → Office → Prop where
  | start : Session host o₀ [] o₀
  | initiate {passed : List Passed} {o : Office} (h : Session host o₀ passed o) (b : Bridge) (hb : b.host = host) (name : String)
      (request : Payload) (hrequest : Payload.written request) {log : List (Σ q, Answer q)} {r : Except AgentError Authorized}
      {s' : BridgeStore} (hrun : Prog.Solo (b.initiateAuthorized name request) o.store log r s')
      (htold : ∀ e ∈ log, o.admin.Tells e.1 e.2) : Session host o₀ (passed ++ passedOf o r) ⟨s',o.admin⟩
  | administer {passed : List Passed} {o : Office} (h : Session host o₀ passed o) (admin : Administration) :
      Session host o₀ passed ⟨o.store,admin⟩
  | elsewhere {passed : List Passed} {o : Office} (h : Session host o₀ passed o) (s' : BridgeStore)
      (hs' : s'.snapshots = o.store.snapshots) : Session host o₀ passed ⟨s',o.admin⟩

/-- A stored authority and an operation it covers, with the text that names its target. -/
structure Bound (host : Host) (snapshots : Dict SnapshotRow) (a : Authorized) : Prop where
  covered : ∃ row record target, snapshots.get? a.approvalId = some row ∧ Covers host row a record ∧
    record.get "target" = .str target
  written : Payload.written a.input

/-- What holds between the operations that were authorized and the stored authorities. -/
structure Accounted (host : Host) (passed : List Passed) (snapshots : Dict SnapshotRow) : Prop where
  bound : ∀ p ∈ passed, Bound host snapshots p.operation
  used : ∀ approvalId row, snapshots.get? approvalId = some row → ∃ p ∈ passed, p.operation.approvalId = approvalId
  first : ∀ before p after, passed = before ++ p :: after → (∀ q ∈ before, q.operation.approvalId ≠ p.operation.approvalId) →
    p.office.admin.Approves p.operation.approvalId

variable {host : Host} {passed : List Passed} {snapshots : Dict SnapshotRow}

theorem split_concat {α : Type} {xs before after : List α} {x y : α} (h : xs ++ [x] = before ++ y :: after) :
    (before = xs ∧ y = x) ∨ ∃ after', xs = before ++ y :: after' := by
  rcases List.eq_nil_or_concat after with rfl | ⟨after',z,rfl⟩
  · obtain ⟨hxs,hx⟩ := List.append_inj' h rfl
    exact .inl ⟨hxs.symm,(List.cons.inj hx).1.symm⟩
  · right
    refine ⟨after',?_⟩
    rw [List.concat_eq_append,← List.cons_append,← List.append_assoc] at h
    exact (List.append_inj' h rfl).1

theorem written_input {request input : Payload} (h : Payload.written request)
    (hinput : Payload.ofJson? (request.get "input") = some input) : Payload.written input := by
  cases hget : request.get? "input" with
  | none =>
    rw [Payload.get,hget] at hinput
    cases hinput
  | some v =>
    have hv : request.get "input" = v := by rw [Payload.get,hget]; rfl
    rw [hv] at hinput
    rw [Payload.written,Json.written,Bool.and_eq_true] at h
    have hwritten := (Json.writtenMembers_iff _).mp h.2 ("input",v) ((Dict.mem_entries_iff request "input" v).mpr hget)
    cases v with
    | obj members =>
      cases hinput
      rw [Json.written,Bool.and_eq_true] at hwritten
      rw [Payload.written,Payload.entries_ofList (of_decide_eq_true hwritten.1),Json.written,Bool.and_eq_true]
      exact hwritten
    | _ => cases hinput

/-- One call more. -/
theorem Accounted.initiated {o : Office} {r : Except AgentError Authorized} {s' : BridgeStore} {request : Payload}
    (h : Accounted host passed o.store.snapshots) (hinit : Initiated host o.admin o.store r s') (hasked : Asked request r)
    (hrequest : Payload.written request) : Accounted host (passed ++ passedOf o r) s'.snapshots := by
  cases hinit with
  | refused e =>
    change Accounted host (passed ++ []) o.store.snapshots
    rw [List.append_nil]
    exact h
  | covered a row record hrow hcovers =>
    obtain ⟨q,hq,hid⟩ := h.used _ _ hrow
    obtain ⟨⟨row',record',target,hrow',hcovers',htarget⟩,-⟩ := h.bound q hq
    rw [hid,hrow] at hrow'
    cases hrow'
    have hsame : record' = record := Option.some.inj (hcovers'.read.symm.trans hcovers.read)
    subst hsame
    constructor
    · intro p hp
      rcases List.mem_append.mp hp with hp | hp
      · exact h.bound p hp
      · rw [List.mem_singleton.mp hp]
        exact ⟨⟨row,record',target,hrow,hcovers,htarget⟩,written_input hrequest (hasked.input a rfl)⟩
    · intro approvalId row hrow
      obtain ⟨p,hp,hpid⟩ := h.used approvalId row hrow
      exact ⟨p,List.mem_append_left _ hp,hpid⟩
    · intro before p after hsplit hbefore
      rcases split_concat hsplit with ⟨rfl,rfl⟩ | ⟨after',hxs⟩
      · exact absurd hid (hbefore q hq)
      · exact h.first before p after' hxs hbefore
  | first a row record hnone hcovers target htarget happroves =>
    have hfresh : ∀ p ∈ passed, p.operation.approvalId ≠ a.approvalId := by
      intro p hp hid
      obtain ⟨⟨row',-,-,hrow',-⟩,-⟩ := h.bound p hp
      rw [hid,hnone] at hrow'
      cases hrow'
    constructor
    · intro p hp
      rcases List.mem_append.mp hp with hp | hp
      · obtain ⟨⟨row',record',target',hrow',hcovers',htarget'⟩,hwritten⟩ := h.bound p hp
        refine ⟨⟨row',record',target',?_,hcovers',htarget'⟩,hwritten⟩
        rw [Dict.get?_set,if_neg (hfresh p hp)]
        exact hrow'
      · rw [List.mem_singleton.mp hp]
        refine ⟨⟨row,record,target,?_,hcovers,htarget⟩,written_input hrequest (hasked.input a rfl)⟩
        rw [Dict.get?_set,if_pos rfl]
    · intro approvalId row' hrow'
      rw [Dict.get?_set] at hrow'
      split at hrow'
      · next hid => exact ⟨⟨a,o⟩,by simp [passedOf],hid.symm⟩
      · obtain ⟨p,hp,hpid⟩ := h.used approvalId row' hrow'
        exact ⟨p,List.mem_append_left _ hp,hpid⟩
    · intro before p after hsplit hbefore
      rcases split_concat hsplit with ⟨rfl,rfl⟩ | ⟨after',hxs⟩
      · exact happroves
      · exact h.first before p after' hxs hbefore

theorem Session.accounted {o₀ o : Office} (h₀ : o₀.store.snapshots = .empty) (h : Session host o₀ passed o) :
    Accounted host passed o.store.snapshots := by
  induction h with
  | start =>
    constructor
    · exact fun _ hp => (by cases hp)
    · intro approvalId row hrow
      rw [h₀] at hrow
      cases hrow
    · intro before p after hsplit
      exact absurd hsplit (by simp)
  | initiate _ b hb name request hrequest hrun htold ih =>
    subst hb
    obtain ⟨hinit,hasked⟩ := initiateAuthorized_spec.solo hrun htold
    exact ih.initiated hinit hasked hrequest
  | administer _ admin ih => exact ih
  | elsewhere _ s' hs' ih =>
    rw [hs']
    exact ih

/-- Operations that one approval authorized are of one kind, on one target and of one payload, a
top-level digest apart; and the first of them was authorized while the approval stood. -/
theorem approval_authorizes_one {o₀ o : Office} (h₀ : o₀.store.snapshots = .empty) (h : Session host o₀ passed o)
    (hsha : ∀ p ∈ passed, ∀ q ∈ passed, host.sha256 (digestText p.operation.input) = host.sha256 (digestText q.operation.input) →
      digestText p.operation.input = digestText q.operation.input) :
    (∀ p ∈ passed, ∀ q ∈ passed, p.operation.approvalId = q.operation.approvalId →
      p.operation.kind = q.operation.kind ∧
      p.operation.input.get p.operation.kind.targetField = q.operation.input.get q.operation.kind.targetField ∧
      Payload.alike (p.operation.input.erase "digest") (q.operation.input.erase "digest") = true) ∧
    ∀ before p after, passed = before ++ p :: after → (∀ q ∈ before, q.operation.approvalId ≠ p.operation.approvalId) →
      p.office.admin.Approves p.operation.approvalId := by
  have hall := h.accounted h₀
  refine ⟨fun p hp q hq hid => ?_,hall.first⟩
  obtain ⟨⟨row,record,target,hrow,hp',htarget⟩,hpw⟩ := hall.bound p hp
  obtain ⟨⟨row',record',target',hrow',hq',htarget'⟩,hqw⟩ := hall.bound q hq
  rw [hid,hrow'] at hrow
  cases hrow
  have hsame : record' = record := Option.some.inj (hq'.read.symm.trans hp'.read)
  subst hsame
  obtain ⟨action,haction,hget⟩ := hp'.action
  obtain ⟨action',haction',hget'⟩ := hq'.action
  have hkind : action = action' := Json.str.inj (hget.symm.trans hget')
  subst hkind
  refine ⟨AuthorizedKind.eq_of_alias haction haction',?_,?_⟩
  · have hpt := hp'.target
    have hqt := hq'.target
    rw [htarget] at hpt hqt
    rw [Json.eq_str_of_alike hpt,Json.eq_str_of_alike hqt]
  · have hdigest : host.canonicalDigest p.operation.input = host.canonicalDigest q.operation.input :=
      Json.str.inj (hp'.digest.symm.trans hq'.digest)
    rw [canonicalDigest_eq,canonicalDigest_eq] at hdigest
    exact alike_of_digestText hpw hqw (hsha p hp q hq hdigest)

/-! ### An approval that is used twice -/

def bindingDigest : String := "e3a8eabe2d76abfa35adb8f1ac1d3591050ad6bd282d9f9a98d43c7d16736876"

/-- A host that knows the texts of one operation. -/
def approvalHost : Host where
  sha256 text := if text = "\x7b\"bindingId\":\"b\"\x7d" then bindingDigest else "07b8f0200f05d5f0fe2afbe3488bc258f1fe6012299fafadea3e4cc40e28f103"
  fromisoformat _ := none
  loads text := if text = "authorization" then some (.obj [("action",.str "cross-project-team-binding"),("target",.str "b"),
    ("payloadDigest",.str bindingDigest),("evidence",.arr [.str "ticket"])]) else none

def approvalBridge : Bridge where
  host := approvalHost

/-- The approval of the plan by a person. -/
def bindingApproval : Core.ApprovalRequest where
  id := "approval"
  subjectId := "plan"
  approvalLevel := .human
  requesterThread := "thread"
  ownerDomain := .sisko
  reason := "binding"
  status := .approved
  decidedBy := some "ada"

def bindingPlan (canceled : Bool) : Core.AdminChangePlan where
  id := "plan"
  kind := .userServiceRestart
  ownerDomain := .sisko
  riskLevel := .high
  approvalLevel := .human
  target := "service"
  reason := "binding"
  currentState := "none"
  proposedState := "authorization"
  steps := []
  rollbackSteps := []
  risks := []
  verificationSteps := []
  approved := true
  canceled := canceled

def bindingRecords (canceled : Bool) : Administration where
  approvals := Dict.empty.set "approval" bindingApproval
  plans := Dict.empty.set "plan" (bindingPlan canceled)

def bindingRequest : Payload := .ofList [("approval_id",.str "approval"),("input",.obj [("bindingId",.str "b")])]

/-- The answers while the records are these. -/
def Administration.answers (admin : Administration) : (q : BridgeQuery) → Answer q
  | .loadApproval approvalId => admin.load approvalId
  | .clock | .storeClock | .token => "t"
  | .tickLock | .adapter _ _ => true
  | .sender _ _ _ => none
  | .dispatchRound _ _ _ | .prepare _ _ _ | .dispatch _ _ _ | .prepareReview _ _ _ | .dispatchReview _ _ _ => none
  | .projectResult _ _ | .supervisorResult _ _ => none

theorem Administration.tells_answers (admin : Administration) (q : BridgeQuery) : admin.Tells q (admin.answers q) := by
  cases q <;> first | rfl | trivial

/-- The office after one more call. -/
def bindOnce (p : List Passed × Office) : List Passed × Office :=
  let run := (approvalBridge.initiateAuthorized "cross-project-team-binding" bindingRequest).perform p.2.admin.answers p.2.store
  (p.1 ++ passedOf p.2 run.1,⟨run.2,p.2.admin⟩)

theorem session_bindOnce {o₀ : Office} {p : List Passed × Office} (h : Session approvalHost o₀ p.1 p.2) :
    Session approvalHost o₀ (bindOnce p).1 (bindOnce p).2 := by
  obtain ⟨log,hrun,hlog⟩ := Prog.perform_solo p.2.admin.answers
    (approvalBridge.initiateAuthorized "cross-project-team-binding" bindingRequest) p.2.store
  have hrequest : Payload.written bindingRequest := by
    unfold Payload.written
    decide +kernel
  refine .initiate h approvalBridge rfl _ bindingRequest hrequest hrun fun e he => ?_
  rw [hlog e he]
  exact p.2.admin.tells_answers e.1

/-- The approval is used, its plan is canceled, and the approval is used again. -/
def bindTwice : List Passed × Office :=
  let first := bindOnce ([],⟨{},bindingRecords false⟩)
  bindOnce (first.1,⟨first.2.store,bindingRecords true⟩)

theorem approval_authorizes_one_twice : bindTwice.1.length = 2 ∧
    (∀ p ∈ bindTwice.1, ∀ q ∈ bindTwice.1, p.operation.approvalId = q.operation.approvalId →
      p.operation.kind = q.operation.kind ∧
      p.operation.input.get p.operation.kind.targetField = q.operation.input.get q.operation.kind.targetField ∧
      Payload.alike (p.operation.input.erase "digest") (q.operation.input.erase "digest") = true) ∧
    ∀ before p after, bindTwice.1 = before ++ p :: after → (∀ q ∈ before, q.operation.approvalId ≠ p.operation.approvalId) →
      p.office.admin.Approves p.operation.approvalId := by
  have hsession : Session approvalHost ⟨{},bindingRecords false⟩ bindTwice.1 bindTwice.2 :=
    session_bindOnce (p := (_,_)) (.administer (session_bindOnce (p := (_,_)) .start) (bindingRecords true))
  have htexts : (bindTwice.1.all fun p => bindTwice.1.all fun q => digestText p.operation.input = digestText q.operation.input) = true := by
    decide +kernel
  refine ⟨by decide +kernel,approval_authorizes_one rfl hsession fun p hp q hq _ => ?_⟩
  exact of_decide_eq_true (List.all_eq_true.mp (List.all_eq_true.mp htexts p hp) q hq)

end Overseer.Psychlo
