import Overseer.Remote.Revocation
import Overseer.Library.Folds

/-! # The job queue

An enqueued job is a file in the pending directory, named by the second it was enqueued in, its
type and the first forty characters of its sanitized lease and type. A file of that name that
is there already is overwritten.
-/
namespace Overseer.Remote
open Overseer.Library

/-- The arguments of `enqueue_remote_test_job_status`. -/
structure EnqueueCall extends JobCall where
  requestedBy : String := "quark"
  uiPath : String := "/Overseer/ui"
  tokenSource : String := "state/api-token"

/-- The content of a job file, the constant schema and redaction apart. -/
structure Job where
  jobId : String
  jobType : String
  createdAt : ℤ
  requestedBy : String
  project : String
  baseUrl : String
  uiPath : String
  gatewayPath : String
  tokenSource : String
  authTokenId : Option String
  leaseId : String
  mutates : Bool
  params : Dict Json

/-- The control file and the files of the pending directory. -/
structure Queue where
  control : ControlState := {}
  pending : Dict Job := .empty

section Enqueue
variable (host : RemoteHost)

namespace EnqueueCall

def shortId (call : EnqueueCall) : List Char := (safeId (call.leaseId ++ "-" ++ call.jobType)).toList.take 40

/-- The name that the job and its file share. -/
def stem (call : EnqueueCall) (createdAt : ℤ) : String :=
  host.strftime createdAt ++ "-" ++ safeId call.jobType ++ "-" ++ String.ofList call.shortId

def filename (call : EnqueueCall) (createdAt : ℤ) : String := call.stem host createdAt ++ ".json"

def job (call : EnqueueCall) (createdAt : ℤ) : Job where
  jobId := call.jobId host createdAt
  jobType := call.jobType
  createdAt := createdAt
  requestedBy := call.requestedBy
  project := call.project
  baseUrl := call.baseUrl
  uiPath := call.uiPath
  gatewayPath := call.gatewayPath
  tokenSource := match given call.authTokenId with
    | some tokenId => "remote-testing-token:" ++ tokenId
    | none => call.tokenSource
  authTokenId := call.authTokenId
  leaseId := call.leaseId
  mutates := call.mutates
  params := call.params

end EnqueueCall

/-- `enqueue_remote_test_job_status`, with the readings of the clock: the job file is written before the control file. -/
def enqueue (call : EnqueueCall) (checkedAt createdAt : ℤ) (q : Queue) : Except RemoteError (String × Queue) := do
  check (call.jobType ∈ supportedJobTypes) "unsupported job_type"
  assertRedactedSafe host "params" (.obj call.params.entries)
  let state := withDefaultProfile q.control
  let lease ← call.checkLease state checkedAt
  let jobId := call.jobId host createdAt
  let pending := q.pending.set (call.filename host createdAt) (call.job host createdAt)
  let control := { state with leases := state.leases.set call.leaseId { lease with jobIds := lease.jobIds ++ [jobId] } }
  return (jobId,⟨control,pending⟩)

/-- What happens to the queue: a job is enqueued, a worker takes a file, the control file is written by anything else. -/
inductive QueueEvent where
  | enqueue (call : EnqueueCall) (checkedAt createdAt : ℤ)
  | take (filename : String)
  | write (control : ControlState)

/-- A call that succeeded. -/
structure Enqueued where
  call : EnqueueCall
  createdAt : ℤ
  jobId : String
  taken : Bool := false

/-- The queue, and the calls that succeeded, latest first. -/
structure QueueRun where
  queue : Queue := {}
  calls : List Enqueued := []

namespace QueueRun

def apply (r : QueueRun) : QueueEvent → QueueRun
  | .enqueue call checkedAt createdAt =>
    match Remote.enqueue host call checkedAt createdAt r.queue with
    | .ok (jobId,queue) => ⟨queue,⟨call,createdAt,jobId,false⟩ :: r.calls⟩
    | .error _ => r
  | .take filename =>
    ⟨{ r.queue with pending := r.queue.pending.erase filename },
      r.calls.map fun e => if e.call.filename host e.createdAt = filename then { e with taken := true } else e⟩
  | .write control => { r with queue := { r.queue with control } }

def run (events : List QueueEvent) : QueueRun := events.foldl (apply host) {}

/-- The ids are distinct, and every job that no worker took is in one file. -/
structure Keeps (r : QueueRun) : Prop where
  distinct : (r.calls.map (·.jobId)).Nodup
  kept : ∀ e ∈ r.calls, e.taken = false → ∃! filename, r.queue.pending.get? filename = some (e.call.job host e.createdAt)

end QueueRun

/-- Two calls of one second and one type, whose sanitized leases begin alike. -/
def SameName (e e' : Enqueued) : Prop :=
  host.strftime e.createdAt = host.strftime e'.createdAt ∧ e.call.jobType = e'.call.jobType ∧ e.call.shortId = e'.call.shortId

/-! ### Names -/

variable {host}

/-- The characters of the job types. -/
def plainChars : List Char := ['a','b','c','d','e','f','g','h','i','j','k','l','m','n','o','p','q','r','s','t','u','v','w','x','y','z','_','.']

theorem plainChars_kept : ∀ c ∈ plainChars, (c.isAlphanum ∨ c = '_' ∨ c = '.' ∨ c = '-') ∧ c.toLower = c ∧ isSpace c = false ∧ c ≠ '-' :=
  List.forall_iff_forall_mem.mp (by decide)

theorem dashed_plain (inRun : Bool) {cs : List Char} (h : ∀ c ∈ cs, c ∈ plainChars) : dashed inRun cs = cs := by
  induction cs generalizing inRun with
  | nil => rfl
  | cons c cs ih =>
    obtain ⟨hc,hcs⟩ := List.forall_mem_cons.mp h
    rw [dashed,if_pos (plainChars_kept c hc).1,ih false hcs]

theorem trim_of_none {p : Char → Bool} {text : String} (h : ∀ c ∈ text.toList, p c = false) : trim p text = text := by
  have hdrop : ∀ {cs : List Char}, (∀ c ∈ cs, p c = false) → cs.dropWhile p = cs := by
    intro cs hcs
    cases cs with
    | nil => rfl
    | cons c cs => rw [List.dropWhile_cons_of_neg (by simp [hcs c List.mem_cons_self])]
  rw [trim,hdrop h,hdrop fun c hc => h c (List.mem_reverse.mp hc),List.reverse_reverse]
  exact String.ofList_toList

theorem safeId_plain {text : String} (hne : text ≠ "") (h : ∀ c ∈ text.toList, c ∈ plainChars) : safeId text = text := by
  have hstrip : strip text = text := trim_of_none fun c hc => (plainChars_kept c (h c hc)).2.2.1
  have hlower : text.map Char.toLower = text := by
    refine String.ext ?_
    rw [String.toList_map]
    exact (List.map_congr_left fun c hc => (plainChars_kept c (h c hc)).2.1).trans (List.map_id _)
  have htrim : trim (· = '-') text = text := trim_of_none fun c hc => decide_eq_false (plainChars_kept c (h c hc)).2.2.2
  rw [safeId,hstrip,dashed_plain false h,String.ofList_toList,htrim,hlower]
  exact if_neg hne

theorem safeId_supported : ∀ jobType ∈ supportedJobTypes, safeId jobType = jobType ∧ '-' ∉ jobType.toList := by
  have hall : ∀ jobType ∈ supportedJobTypes, jobType.toList.Forall (· ∈ plainChars) := by decide +kernel
  have hplain : ∀ jobType ∈ supportedJobTypes, ∀ c ∈ jobType.toList, c ∈ plainChars := fun jobType hmem =>
    List.forall_iff_forall_mem.mp (hall jobType hmem)
  intro jobType hmem
  refine ⟨safeId_plain ?_ (hplain jobType hmem),fun hdash => (plainChars_kept _ (hplain jobType hmem _ hdash)).2.2.2 rfl⟩
  rintro rfl
  exact absurd hmem (by decide +kernel)

theorem dash_inj {x y s t : String} (hx : '-' ∉ x.toList) (hy : '-' ∉ y.toList) (h : x ++ "-" ++ s = y ++ "-" ++ t) : x = y ∧ s = t := by
  have hlist : (x.toList ++ '-' :: s.toList).reverse = (y.toList ++ '-' :: t.toList).reverse := by
    have hlist := congrArg String.toList h
    simp only [String.toList_append,List.append_assoc] at hlist
    exact congrArg List.reverse hlist
  simp only [List.reverse_append,List.reverse_cons,List.append_assoc,List.singleton_append] at hlist
  -- read from behind, the first dash is the last one
  obtain ⟨hst,hxy⟩ := append_cons_inj_of_notMem_right (List.mem_reverse.not.mpr hx) (List.mem_reverse.not.mpr hy) hlist
  exact ⟨String.ext (List.reverse_injective hxy),String.ext (List.reverse_injective hst)⟩

theorem stem_inj (hdash : ∀ t, '-' ∉ (host.strftime t).toList) {e e' : Enqueued} (htype : e.call.jobType ∈ supportedJobTypes)
    (htype' : e'.call.jobType ∈ supportedJobTypes) : e.call.stem host e.createdAt = e'.call.stem host e'.createdAt ↔ SameName host e e' := by
  obtain ⟨hsafe,hnone⟩ := safeId_supported _ htype
  obtain ⟨hsafe',hnone'⟩ := safeId_supported _ htype'
  rw [EnqueueCall.stem,EnqueueCall.stem,hsafe,hsafe']
  constructor
  · intro h
    have hparts : host.strftime e.createdAt ++ "-" ++ (e.call.jobType ++ "-" ++ String.ofList e.call.shortId) =
        host.strftime e'.createdAt ++ "-" ++ (e'.call.jobType ++ "-" ++ String.ofList e'.call.shortId) := by
      simpa only [String.append_assoc] using h
    obtain ⟨hstamp,hrest⟩ := dash_inj (hdash _) (hdash _) hparts
    obtain ⟨hjobType,hshort⟩ := dash_inj hnone hnone' hrest
    exact ⟨hstamp,hjobType,String.ofList_injective hshort⟩
  · rintro ⟨hstamp,hjobType,hshort⟩
    rw [hstamp,hjobType,hshort]

theorem jobId_eq (call : EnqueueCall) (createdAt : ℤ) : call.jobId host createdAt = "job-" ++ call.stem host createdAt := by
  simp only [JobCall.jobId,EnqueueCall.stem,EnqueueCall.shortId,String.append_assoc]

theorem stem_of_jobId {call call' : EnqueueCall} {t t' : ℤ} : call.jobId host t = call'.jobId host t' ↔ call.stem host t = call'.stem host t' := by
  rw [jobId_eq,jobId_eq,String.append_right_inj]

theorem stem_of_filename {call call' : EnqueueCall} {t t' : ℤ} :
    call.filename host t = call'.filename host t' ↔ call.stem host t = call'.stem host t' := by
  rw [EnqueueCall.filename,EnqueueCall.filename,String.append_left_inj]

/-! ### Runs -/

namespace QueueRun

theorem enqueue_ok {call : EnqueueCall} {checkedAt createdAt : ℤ} {q q' : Queue} {jobId : String}
    (h : enqueue host call checkedAt createdAt q = .ok (jobId,q')) : call.jobType ∈ supportedJobTypes ∧
      jobId = call.jobId host createdAt ∧ q'.pending = q.pending.set (call.filename host createdAt) (call.job host createdAt) := by
  unfold enqueue at h
  by_cases htype : call.jobType ∈ supportedJobTypes
  · simp only [check,if_pos htype] at h
    cases hsafe : assertRedactedSafe host "params" (.obj call.params.entries) with
    | error e => simp [hsafe,bind,Except.bind] at h
    | ok u =>
      cases hlease : call.checkLease (withDefaultProfile q.control) checkedAt with
      | error e => simp [hsafe,hlease,bind,Except.bind] at h
      | ok lease =>
        simp only [hsafe,hlease,bind,Except.bind,pure,Except.pure,Except.ok.injEq,Prod.mk.injEq] at h
        obtain ⟨rfl,rfl⟩ := h
        exact ⟨htype,rfl,rfl⟩
  · simp [check,htype,bind,Except.bind] at h

/-- What is known of every run: the calls have their ids, every file is of a call that was not taken, and a call whose name
no later call had is in its file until it is taken. -/
structure Filed (host : RemoteHost) (r : QueueRun) : Prop where
  named : ∀ e ∈ r.calls, e.call.jobType ∈ supportedJobTypes ∧ e.jobId = e.call.jobId host e.createdAt
  owned : ∀ filename job, r.queue.pending.get? filename = some job → ∃ e ∈ r.calls,
    filename = e.call.filename host e.createdAt ∧ job = e.call.job host e.createdAt
  present : r.calls.Pairwise (fun e e' => e.call.filename host e.createdAt ≠ e'.call.filename host e'.createdAt) →
    ∀ e ∈ r.calls, e.taken = false → r.queue.pending.get? (e.call.filename host e.createdAt) = some (e.call.job host e.createdAt)

theorem Filed.apply {r : QueueRun} (h : Filed host r) (event : QueueEvent) : Filed host (r.apply host event) := by
  cases event with
  | enqueue call checkedAt createdAt =>
    rw [QueueRun.apply]
    cases henqueue : enqueue host call checkedAt createdAt r.queue with
    | error e => exact h
    | ok answer =>
      obtain ⟨jobId,q'⟩ := answer
      obtain ⟨htype,hid,hpending⟩ := enqueue_ok henqueue
      refine ⟨?_,fun filename job hjob => ?_,fun hdistinct e he htaken => ?_⟩
      · exact List.forall_mem_cons.mpr ⟨⟨htype,hid⟩,h.named⟩
      · change q'.pending.get? filename = some job at hjob
        rw [hpending,Dict.get?_set] at hjob
        by_cases hname : filename = call.filename host createdAt
        · rw [if_pos hname] at hjob
          exact ⟨_,List.mem_cons_self,hname,(Option.some.inj hjob).symm⟩
        · rw [if_neg hname] at hjob
          obtain ⟨e,he,hfile⟩ := h.owned filename job hjob
          exact ⟨e,List.mem_cons_of_mem _ he,hfile⟩
      · obtain ⟨hnew,hdistinct⟩ := List.pairwise_cons.mp hdistinct
        change q'.pending.get? _ = _
        rw [hpending,Dict.get?_set]
        rcases List.mem_cons.mp he with rfl | he
        · exact if_pos rfl
        · rw [if_neg (hnew e he).symm]
          exact h.present hdistinct e he htaken
  | take filename =>
    have hnames : ∀ e : Enqueued, (if e.call.filename host e.createdAt = filename then { e with taken := true } else e).call = e.call ∧
        (if e.call.filename host e.createdAt = filename then { e with taken := true } else e).createdAt = e.createdAt ∧
        (if e.call.filename host e.createdAt = filename then { e with taken := true } else e).jobId = e.jobId := by
      intro e
      split <;> exact ⟨rfl,rfl,rfl⟩
    refine ⟨fun e he => ?_,fun name job hjob => ?_,fun hdistinct e he htaken => ?_⟩
    · obtain ⟨e₀,he₀,rfl⟩ := List.mem_map.mp he
      obtain ⟨hcall,hcreated,hid⟩ := hnames e₀
      rw [hcall,hcreated,hid]
      exact h.named e₀ he₀
    · change (r.queue.pending.erase filename).get? name = some job at hjob
      rw [Dict.get?_erase] at hjob
      by_cases hname : name = filename
      · rw [if_pos hname] at hjob
        cases hjob
      · rw [if_neg hname] at hjob
        obtain ⟨e,he,hfile,hcontent⟩ := h.owned name job hjob
        obtain ⟨hcall,hcreated,-⟩ := hnames e
        exact ⟨_,List.mem_map.mpr ⟨e,he,rfl⟩,by rw [hcall,hcreated]; exact hfile,by rw [hcall,hcreated]; exact hcontent⟩
    · obtain ⟨e₀,he₀,rfl⟩ := List.mem_map.mp he
      have hbefore : r.calls.Pairwise fun e e' => e.call.filename host e.createdAt ≠ e'.call.filename host e'.createdAt := by
        refine (List.pairwise_map.mp hdistinct).imp fun {a b} hab => ?_
        rwa [(hnames a).1,(hnames a).2.1,(hnames b).1,(hnames b).2.1] at hab
      by_cases hname : e₀.call.filename host e₀.createdAt = filename
      · rw [if_pos hname] at htaken
        cases htaken
      · rw [if_neg hname] at htaken ⊢
        change (r.queue.pending.erase filename).get? _ = _
        rw [Dict.get?_erase,if_neg hname]
        exact h.present hbefore e₀ he₀ htaken
  | write control => exact ⟨h.named,h.owned,h.present⟩

theorem Filed.run (events : List QueueEvent) : Filed host (run host events) :=
  foldl_invariant ⟨nofun,fun _ _ hjob => by simp at hjob,fun _ => nofun⟩ (fun _ event h => h.apply event) events

end QueueRun

/-- Whatever is enqueued, taken and written, the job ids are distinct and every job that no worker took is in exactly one
pending file, exactly when no two calls that succeeded have the same second, type and beginning of the sanitized lease.
`hdash` is of the format of `strftime`. -/
theorem jobs_kept_iff (hdash : ∀ t, '-' ∉ (host.strftime t).toList) (events : List QueueEvent) :
    (QueueRun.run host events).Keeps host ↔ (QueueRun.run host events).calls.Pairwise fun e e' => ¬ SameName host e e' := by
  have hfiled : QueueRun.Filed host (QueueRun.run host events) := QueueRun.Filed.run events
  generalize QueueRun.run host events = r at hfiled ⊢
  -- the names, the ids and what they are made of are told apart alike
  have hnames : ∀ e ∈ r.calls, ∀ e' ∈ r.calls, (e.call.filename host e.createdAt = e'.call.filename host e'.createdAt ↔ SameName host e e') ∧
      (e.jobId = e'.jobId ↔ SameName host e e') := by
    intro e he e' he'
    obtain ⟨htype,hid⟩ := hfiled.named e he
    obtain ⟨htype',hid'⟩ := hfiled.named e' he'
    exact ⟨stem_of_filename.trans (stem_inj hdash htype htype'),by rw [hid,hid',stem_of_jobId,stem_inj hdash htype htype']⟩
  have hids : (r.calls.map (·.jobId)).Nodup ↔ r.calls.Pairwise fun e e' => ¬ SameName host e e' := by
    rw [List.Nodup,List.pairwise_map]
    exact List.Pairwise.iff_of_mem fun {e e'} he he' => (hnames e he e' he').2.not
  refine ⟨fun hkeeps => hids.mp hkeeps.distinct,fun hdistinct => ⟨hids.mpr hdistinct,fun e he htaken => ?_⟩⟩
  have hfiles : r.calls.Pairwise fun e e' => e.call.filename host e.createdAt ≠ e'.call.filename host e'.createdAt :=
    (List.Pairwise.iff_of_mem fun {e e'} he he' => (hnames e he e' he').1.not).mpr hdistinct
  refine ⟨e.call.filename host e.createdAt,hfiled.present hfiles e he htaken,fun filename hjob => ?_⟩
  obtain ⟨e',-,hfile,hjob'⟩ := hfiled.owned filename _ hjob
  rw [hfile]
  exact (stem_of_filename.trans stem_of_jobId.symm).mpr (congrArg Job.jobId hjob').symm

end Enqueue

/-! ### Concrete runs -/

def pingLease : Lease where
  leaseId := "lease.1"
  profileId := defaultProfileId
  project := "Overseer"
  jobTypes := ["ping","overseer.http_status"]
  expiresAt := 60000000

def leasedControl : ControlState := { leases := Dict.empty.set "lease.1" pingLease }

def callOf (jobType : String) (params : Dict Json) : EnqueueCall := { leaseId := "lease.1", jobType, params }

def twoTypes : List QueueEvent := [.write leasedControl,.enqueue (callOf "ping" .empty) 0 0,.enqueue (callOf "overseer.http_status" .empty) 0 1]

theorem jobs_kept_two_types : (QueueRun.run plainHost twoTypes).Keeps plainHost ∧ (QueueRun.run plainHost twoTypes).calls.length = 2 := by
  have hdash : ∀ t, '-' ∉ (plainHost.strftime t).toList := by
    intro t
    change '-' ∉ "20260101T000000Z".toList
    decide
  have htypes : (QueueRun.run plainHost twoTypes).calls.map (fun e => e.call.jobType) = ["overseer.http_status","ping"] := by decide +kernel
  refine ⟨(jobs_kept_iff hdash twoTypes).mpr ?_,by simpa using congrArg List.length htypes⟩
  have hdistinct : ((QueueRun.run plainHost twoTypes).calls.map fun e => e.call.jobType).Nodup := by
    rw [htypes]
    decide
  rw [List.Nodup,List.pairwise_map] at hdistinct
  exact hdistinct.imp fun hne hsame => hne hsame.2.1

def pings : List QueueEvent := [.write leasedControl,.enqueue (callOf "ping" .empty) 0 0,
  .enqueue (callOf "ping" (Dict.empty.set "path" (.str "/"))) 0 1]

/-- Two jobs of one lease and type are enqueued within a second: one id, and one file, with the content of the second. -/
theorem second_job_overwrites : (QueueRun.run plainHost pings).calls.map (·.jobId) =
      ["job-20260101T000000Z-ping-lease.1-ping","job-20260101T000000Z-ping-lease.1-ping"] ∧
    (QueueRun.run plainHost pings).calls.map (·.taken) = [false,false] ∧
    (QueueRun.run plainHost pings).queue.pending.values.map (·.params.keys) = [["path"]] := by
  decide +kernel

end Overseer.Remote
