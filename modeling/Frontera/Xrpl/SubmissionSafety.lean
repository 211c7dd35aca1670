import Frontera.Xrpl.SubmissionInvariant

/-! One resumed execution leaves the store and the submissions alone, makes one reservation, makes
the one submission of a reservation, or closes its own record on a ledger fact. From this every
state of a truthful run keeps the facts of its submissions. -/

namespace Frontera.Xrpl

open Frontera.Data Frontera.Text List Option InterlockStore

variable {D : Deployment} {system : System} {c : Nat} {call : RailCall}

/-- The four things a resumed execution can do. -/
inductive Outcome (D : Deployment) (system : System) (c : Nat) (call : RailCall) (effect : Effect) :
    Prop where
  | local (hstore : effect.store = system.store) (hreservation : effect.reservation = call.reservation)
      (hsubmission : effect.submission = none)
      (hphase : PhaseSound D system c { call with phase := effect.phase })
  | reserves (signed : Signed) (reservedAt : String) (answered : Bool)
      (hsigned : SignedSound D system call signed)
      (hstore : system.store.insertReservation (signed.record call.request.executionId) reservedAt =
        some effect.store)
      (hfree : ∀ row ∈ system.store.rows,
        InterlockStore.Releases (signed.record call.request.executionId) signed.validated row)
      (hreservation : effect.reservation = some signed) (hsubmission : effect.submission = none)
      (hphase : effect.phase = afterReservation signed answered)
  | submits (signed : Signed) (attempted : Bool) (hbefore : call.phase = .submitting signed)
      (hstore : effect.store = system.store) (hreservation : effect.reservation = call.reservation)
      (hsubmission : effect.submission = some attempted)
      (hphase : effect.phase = if attempted then .submitted signed else .closing signed)
  | settles (signed : Signed) (attempted : Bool) (target : XrplSubmissionState)
      (written : Option String) (result : PaymentRailResult)
      (hsent : Sent D system c call signed attempted)
      (hclosed : ∀ settlement, target = .settled settlement →
        Closed D system (signed.record call.request.executionId))
      (hstore : effect.store = settleQuietly system.store call.request.executionId signed target written)
      (hreservation : effect.reservation = call.reservation) (hsubmission : effect.submission = none)
      (hphase : effect.phase = .answered result)
      (hcompleted : ∀ reference, result = .completed reference →
        attempted = true ∧ reference = signed.hash ∧
          DeliveredIn system.ledger signed.hash signed.prepared.amount)

variable {signed : Signed} {rail : RailState} {transaction : XrplPaymentTransaction}
  {raw : Option (Json String)}

theorem SignedSound.moved (h : SignedSound D system call signed) (phase : RailPhase) :
    SignedSound D system { call with phase := phase } signed :=
  ⟨h.built,h.validated,h.decoded,h.hashed⟩

theorem Sent.moved {attempted : Bool} (h : Sent D system c call signed attempted)
    (phase : RailPhase) : Sent D system c { call with phase := phase } signed attempted :=
  ⟨h.sound.moved phase,h.reserved,h.submitted⟩

theorem afterIndex_sound (hbuilt : Built D call transaction)
    (htruthful : ∀ answer, raw = some answer → IndexTruthful system.ledger answer) :
    PhaseSound D system c { call with phase := (afterIndex rail transaction raw).2 } := by
  unfold afterIndex
  split
  · trivial
  · rename_i answer
    cases hread : readLedgerIndex answer with
    | none => trivial
    | some validated =>
      have hle := htruthful answer rfl validated hread
      simp only
      split
      · trivial
      · exact ⟨hbuilt,hle⟩
      · exact ⟨hbuilt,hle⟩

theorem afterAutofill_sound {options : RailOptions} {validated : Int} (raw : Option (Json String))
    (hbuilt : Built D call transaction) (hle : validated ≤ system.ledger.validatedIndex) :
    PhaseSound D system c
      { call with phase := (afterAutofill options rail transaction validated raw).2 } := by
  fun_cases afterAutofill options rail transaction validated raw
  all_goals first
    | exact ⟨hbuilt,hle⟩
    | trivial

theorem concludes_sound {outcome : PaymentRailResult} (hsent : Sent D system c call signed true)
    (houtcome : OutcomeSound D system signed outcome) :
    PhaseSound D system c { call with phase := (concludes rail signed outcome).2 } := by
  have hphase : (concludes rail signed outcome).2 = .settling signed outcome := by
    unfold concludes
    split <;> rfl
  rw [hphase]
  exact ⟨hsent.moved _,houtcome⟩

theorem unconfirmed_sound (hash : String) (detail : XrplRailDetail) :
    OutcomeSound D system signed (.unconfirmed hash detail) :=
  ⟨fun h => absurd rfl h,fun _ h => (by cases h)⟩

theorem notCompleted_sound {reason : ExecutionFailureReason} {reference : Option String}
    {detail : ResultDetail}
    (h : Final D system.ledger signed.hash signed.prepared.lastLedgerSequence) :
    OutcomeSound D system signed (.notCompleted reason reference detail) :=
  ⟨fun _ => h,fun _ heq => (by cases heq)⟩

theorem afterSubmit_sound (hsent : Sent D system c call signed true)
    (htruthful : ∀ answer, raw = some answer → ∀ engineResult, readSubmission answer signed.hash = .malformed engineResult → D.neverApplies signed.hash = true) :
    PhaseSound D system c { call with phase := (afterSubmit rail signed raw).2 } := by
  unfold afterSubmit
  split
  · exact concludes_sound hsent (unconfirmed_sound _ _)
  · rename_i answer
    split
    · exact concludes_sound hsent (unconfirmed_sound _ _)
    · rename_i engineResult hread
      exact concludes_sound hsent
        (notCompleted_sound (.inr (.inl (htruthful answer rfl engineResult hread))))
    · exact hsent.moved _

theorem afterLookup_sound {index : Option Int} (hsent : Sent D system c call signed true)
    (hindex : ∀ validated, index = some validated → validated ≤ system.ledger.validatedIndex)
    (htruthful : ∀ answer, raw = some answer → LookupTruthful system.ledger signed answer) :
    PhaseSound D system c { call with phase := (afterLookup rail signed index raw).2 } := by
  unfold afterLookup
  split
  · exact hsent.moved _
  · rename_i answer
    obtain ⟨-,hvalidated⟩ := readLookup_cases answer signed.expected
    have hincluded : ∀ reading, readLookup answer signed.expected = reading →
        reading ≠ .notFoundComplete → reading ≠ .pending → reading ≠ .unreadable →
        ∃ i ∈ system.ledger.inclusions, i.hash = signed.hash ∧ i.index ≤ system.ledger.validatedIndex ∧
          readValidated i.details signed.prepared.amount = reading := by
      intro reading hreading hcomplete hpending hunreadable
      obtain ⟨details, hsays,hread⟩ := hvalidated reading hreading hcomplete hpending hunreadable
      obtain ⟨i,hi,hhash,rfl,hle⟩ := (htruthful answer rfl).1 details hsays
      exact ⟨i,hi,hhash,hle,hread⟩
    split
    · rename_i hread
      obtain ⟨i,hi,hhash,hle,hdetails⟩ := hincluded _ hread (by simp) (by simp) (by simp)
      apply concludes_sound hsent
      refine ⟨fun _ => .inl ⟨i,hi,hhash⟩,?_⟩
      intro reference heq
      exact ⟨(PaymentRailResult.completed.inj heq).symm,i,hi,hhash,hle, readValidated_success hdetails⟩
    · rename_i engineResult hread
      obtain ⟨i,hi,hhash,-⟩ := hincluded _ hread (by simp) (by simp) (by simp)
      exact concludes_sound hsent (notCompleted_sound (.inl ⟨i,hi,hhash⟩))
    · exact concludes_sound hsent (unconfirmed_sound _ _)
    · exact concludes_sound hsent (unconfirmed_sound _ _)
    · split_ifs with hany
      · cases index with
        | none => simp at hany
        | some validated =>
          have hle := hindex validated rfl
          simp only [any_some,decide_eq_true_eq] at hany
          exact concludes_sound hsent (notCompleted_sound (.inr (.inr (hany.trans hle))))
      · exact hsent.moved _
    · exact hsent.moved _
    · exact hsent.moved _

theorem Decided.intro
    (hfree : ∀ row ∈ system.store.rows, InterlockStore.Releases (signed.record call.request.executionId) signed.validated row) :
    Decided system call signed (system.store.currentHead D.platform D.scope) where
  within := le_refl _
  free := fun row hrow => hfree row (mem_of_mem_take hrow)

theorem Decided.all {head : InterlockStore.ReservationsHead} (h : Decided system call signed head)
    (hhead : system.store.currentHead D.platform D.scope = head) :
    ∀ row ∈ system.store.rows,
      InterlockStore.Releases (signed.record call.request.executionId) signed.validated row := by
  intro row hrow
  apply h.free
  rw [← hhead]
  simpa [currentHead] using hrow

theorem resume_outcome {effect : Effect} {resumption : Resumption}
    (hsound : PhaseSound D system c call)
    (htruthful : ResumptionTruthful D system.ledger call.phase resumption)
    (h : resume D (D.options call.process) rail system.store call.request.executionId call.reservation call.phase resumption = some effect) :
    Outcome D system c call effect := by
  have hanswered : ∀ (rail' : RailState) (result : PaymentRailResult),
      (∀ reference, result ≠ .completed reference) → Outcome D system c call
        (.local system.store call.reservation (rail', .answered result)) := by
    intro rail' result hne
    refine .local rfl rfl rfl ?_
    cases result with
    | completed reference => exact absurd rfl (hne reference)
    | notCompleted => trivial
    | unconfirmed => trivial
  have hrefused : ∀ (rail' : RailState) reason detail, Outcome D system c call
      (.local system.store call.reservation (rail', refuse reason detail)) :=
    fun rail' reason detail => hanswered rail' _ (by simp)
  have hprevious : ∀ (rail' : RailState) hash, Outcome D system c call
      (.local system.store call.reservation (rail', previouslySubmitted hash)) :=
    fun rail' hash => hanswered rail' _ (by simp)
  obtain ⟨process,request,phase,reservation⟩ := call
  simp only at h
  unfold resume at h
  split at h
  · -- turn
    obtain rfl := some.inj h
    exact .local rfl rfl rfl hsound
  · -- recorded
    obtain rfl := some.inj h
    simp only [afterRecorded]
    split
    · exact hrefused _ _ _
    · exact hprevious _ _
    · exact .local rfl rfl rfl hsound
  · -- connected
    obtain rfl := some.inj h
    simp only [afterConnect]
    split
    · exact hrefused _ _ _
    · split
      · exact .local rfl rfl rfl hsound
      · exact hrefused _ _ _
  · -- index
    obtain rfl := some.inj h
    refine .local rfl rfl rfl (afterIndex_sound hsound ?_)
    rintro answer rfl
    exact htruthful
  · -- header
    obtain rfl := some.inj h
    simp only [afterHeader]
    split
    · exact hrefused _ _ _
    · exact .local rfl rfl rfl hsound
  · -- autofilled
    obtain rfl := some.inj h
    exact .local rfl rfl rfl (afterAutofill_sound _ hsound.1 hsound.2)
  · -- blocking
    obtain rfl := some.inj h
    simp only [afterBlocking]
    split
    · exact hrefused _ _ _
    · exact hrefused _ _ _
    · exact .local rfl rfl rfl hsound
  · -- signed
    obtain rfl := some.inj h
    simp only [afterSign]
    split
    · exact hrefused _ _ _
    · split_ifs with hmatch
      · exact hrefused _ _ _
      · exact hrefused _ _ _
      · simp only [signedPaymentMatches,Bool.not_eq_true,Bool.not_eq_false',Bool.and_eq_true,
          decide_eq_true_eq,beq_iff_eq] at hmatch
        exact .local rfl rfl rfl ⟨hsound.1,hsound.2,hmatch.1.2,hmatch.2⟩
  · -- reserve
    rename_i signed reservedAt answered
    split_ifs at h
    · obtain rfl := some.inj h
      exact hrefused _ _ _
    · split at h
      · rename_i store hstore
        obtain rfl := some.inj h
        unfold reserve at hstore
        split_ifs at hstore with hfree
        exact .reserves signed reservedAt answered hsound hstore
          (decideReservation_free hfree).2 rfl rfl rfl
      · split at h
        · obtain rfl := some.inj h
          exact hprevious _ _
        · obtain rfl := some.inj h
          exact hrefused _ _ _
  · -- decide
    rename_i signed
    split_ifs at h
    · obtain rfl := some.inj h
      exact hrefused _ _ _
    · obtain rfl := some.inj h
      cases hdecision : system.store.decideReservation (signed.record request.executionId)
          signed.validated with
      | executionRecorded hash => exact hprevious _ _
      | blocked => exact hrefused _ _ _
      | free =>
        exact .local rfl rfl rfl
          ⟨SignedSound.moved hsound _,Decided.intro (decideReservation_free hdecision).2⟩
  · -- commit
    rename_i signed head reservedAt answered
    split at h
    · rename_i store hstore
      obtain rfl := some.inj h
      unfold commitReservation at hstore
      split_ifs at hstore with hhead
      exact .reserves signed reservedAt answered hsound.1 hstore (hsound.2.all hhead) rfl rfl rfl
    · obtain rfl := some.inj h
      exact hrefused _ _ _
  · obtain rfl := some.inj h
    exact hrefused _ _ _
  · obtain rfl := some.inj h
    exact hrefused _ _ _
  · -- submit
    rename_i signed attempted
    obtain rfl := some.inj h
    exact .submits signed attempted rfl rfl rfl rfl rfl
  · -- submitAnswer
    obtain rfl := some.inj h
    refine .local rfl rfl rfl (afterSubmit_sound hsound ?_)
    rintro answer rfl
    exact htruthful
  · -- closed
    rename_i signed written
    obtain rfl := some.inj h
    refine .settles signed false (.settled .notSubmitted) written _ hsound ?_ rfl rfl rfl rfl ?_
    · intro _ _
      exact .inr ⟨_,hsound.submitted,rfl,rfl⟩
    · intro reference heq
      cases heq
  · -- pollIndex
    obtain rfl := some.inj h
    exact .local rfl rfl rfl (hsound.moved _)
  · rename_i signed raw
    obtain rfl := some.inj h
    exact .local rfl rfl rfl ⟨Sent.moved hsound _,fun validated hread => htruthful validated hread⟩
  · -- pollLookup
    obtain rfl := some.inj h
    refine .local rfl rfl rfl (afterLookup_sound hsound.1 hsound.2 ?_)
    rintro answer rfl
    exact htruthful
  · obtain rfl := some.inj h
    exact .local rfl rfl rfl (concludes_sound hsound (unconfirmed_sound _ _))
  · obtain rfl := some.inj h
    exact .local rfl rfl rfl (concludes_sound hsound.1 (unconfirmed_sound _ _))
  · obtain rfl := some.inj h
    exact .local rfl rfl rfl (concludes_sound hsound (unconfirmed_sound _ _))
  · obtain rfl := some.inj h
    exact .local rfl rfl rfl (concludes_sound hsound.1 (unconfirmed_sound _ _))
  · -- settled
    rename_i signed outcome written
    obtain rfl := some.inj h
    refine .settles signed true (targetOf outcome) written outcome hsound.1 ?_ rfl rfl rfl rfl ?_
    · intro settlement htarget
      refine .inl (hsound.2.settled ?_)
      intro hnone
      simp [targetOf,hnone] at htarget
    · intro reference heq
      exact ⟨rfl,hsound.2.completed reference heq⟩
  · cases h

variable {D : Deployment} {system system' : System}

theorem Grows.of_same (hledger : system'.ledger = system.ledger) (hstore : system'.store = system.store)
    (hsubmissions : system'.submissions = system.submissions) : Grows system system' where
  index := le_of_eq (by rw [hledger])
  inclusions := fun i hi => by rwa [hledger]
  submissions := fun submission hmem => by rwa [hsubmissions]
  rows := ⟨id,[],by rw [hstore]; simp,fun row => ⟨rfl,fun h => h⟩⟩

variable {c : Nat} {call : RailCall} {target : XrplSubmissionState} {store : InterlockStore}
  {submission : Submission} {signed : Signed}

theorem getElem?_set_cases {calls : List RailCall} {k : Nat} {call' other : RailCall}
    (h : (calls.set c call')[k]? = some other) :
    k = c ∧ other = call' ∨ k ≠ c ∧ calls[k]? = some other := by
  rw [List.getElem?_set] at h
  split_ifs at h with hk hlength
  · exact .inl ⟨hk.symm,(some.inj h).symm⟩
  · exact .inr ⟨fun heq => hk heq.symm,h⟩

section

variable (h : SubmissionsSound D system)
include h

theorem SubmissionsSound.goes (hcall : system.calls[c]? = some call) (rails : Nat → RailState)
    {phase : RailPhase} (hphase : PhaseSound D system c { call with phase := phase }) :
    SubmissionsSound D { system with
      rails := rails, calls := system.calls.set c { call with phase := phase } } := by
  have hlength : c < system.calls.length := (List.getElem?_eq_some_iff.1 hcall).1
  have hold : ∀ (k : Nat) (other : RailCall),
      (system.calls.set c { call with phase := phase })[k]? = some other →
      ∃ before, system.calls[k]? = some before ∧ before.request = other.request ∧
        before.reservation = other.reservation := by
    intro k other hother
    rcases getElem?_set_cases hother with ⟨rfl,rfl⟩ | ⟨-,hsame⟩
    · exact ⟨call,hcall,rfl,rfl⟩
    · exact ⟨other,hsame,rfl,rfl⟩
  have hgrows : Grows system { system with
      rails := rails, calls := system.calls.set c { call with phase := phase } } :=
    Grows.of_same rfl rfl rfl
  refine ⟨?_,?_,?_,?_,h.once,h.closed,h.ordered⟩
  · intro k other hother
    rcases getElem?_set_cases hother with ⟨rfl,rfl⟩ | ⟨-,hsame⟩
    · exact hphase.grows hgrows fun _ hmem _ => hmem
    · exact (h.calls k other hsame).grows hgrows fun _ hmem _ => hmem
  · intro k other signed hother hreservation
    obtain ⟨before,hbefore,hrequest,hsame⟩ := hold k other hother
    rw [← hrequest]
    exact h.reserved k before signed hbefore (hsame.trans hreservation)
  · intro k k' other other' hother hother' hsome hsome' hid
    obtain ⟨before,hbefore,hrequest,hsame⟩ := hold k other hother
    obtain ⟨before',hbefore',hrequest',hsame'⟩ := hold k' other' hother'
    exact h.apart k k' before before' hbefore hbefore' (hsame ▸ hsome) (hsame' ▸ hsome')
      (by rw [hrequest,hrequest',hid])
  · intro submission hmem
    obtain ⟨before,hbefore,hid,hreservation,hsigned⟩ := h.submitted submission hmem
    by_cases hc : submission.call = c
    · rw [hc,hcall] at hbefore
      obtain rfl := some.inj hbefore
      refine ⟨{ call with phase := phase },?_,hid,hreservation,?_⟩
      · rw [hc]
        exact List.getElem?_set_self hlength
      · exact (hsigned.moved phase).grows hgrows
    · refine ⟨before,?_,hid,hreservation,hsigned.grows hgrows⟩
      rw [List.getElem?_set_ne (fun heq => hc heq.symm)]
      exact hbefore

theorem SubmissionsSound.transition {executionId hash updatedAt : String}
    (htransition : system.store.transition executionId hash target updatedAt = some store)
    (hclosed : ∀ settlement, target = .settled settlement → ∀ row ∈ system.store.rows, row.executionId = executionId → Closed D system row.toXrplSubmissionRecordInput) :
    SubmissionsSound D { system with store := store } := by
  obtain ⟨-,hrows⟩ := transition_rows htransition
  have hinput : ∀ row : XrplSubmissionRecord,
      (if row.executionId = executionId then moveRow row target updatedAt
        else row).toXrplSubmissionRecordInput = row.toXrplSubmissionRecordInput := by
    intro row
    split_ifs
    · exact moveRow_input row target updatedAt
    · rfl
  have hstays : ∀ row : XrplSubmissionRecord, row.isOpen = false → moveRow row target updatedAt = row := by
    intro row hopen
    simp [moveRow,hopen]
  have hgrows : Grows system { system with store := store } := by
    refine ⟨le_refl _,fun _ hi => hi,fun _ hmem => hmem,_,[],by rw [hrows,append_nil],?_⟩
    intro row
    refine ⟨hinput row,fun hopen => ?_⟩
    split_ifs
    · rw [hstays row hopen]
      exact hopen
    · exact hopen
  refine ⟨?_,?_,h.apart,?_,h.once,?_,?_⟩
  · intro c call hcall
    exact (h.calls c call hcall).grows hgrows fun _ hmem _ => hmem
  · intro c call signed hcall hreservation
    obtain ⟨row,hrow,heq⟩ := h.reserved c call signed hcall hreservation
    refine ⟨_,?_,(hinput row).trans heq⟩
    simp only [hrows]
    exact mem_map_of_mem hrow
  · intro submission hmem
    obtain ⟨call,hcall,hid,hreservation,hsigned⟩ := h.submitted submission hmem
    exact ⟨call,hcall,hid,hreservation,hsigned.grows hgrows⟩
  · intro row hrow hopen
    simp only [hrows] at hrow
    obtain ⟨before,hbefore,rfl⟩ := mem_map.1 hrow
    rw [hinput before]
    apply Closed.grows _ hgrows
    by_cases hwas : before.isOpen = false
    · exact h.closed before hbefore hwas
    · -- The row was open: it is closed now because the target is a settlement.
      split_ifs at hopen with hid
      · rcases moveRow_state before target updatedAt with hsame | ⟨-,hmoved⟩
        · rw [XrplSubmissionRecord.isOpen,hsame] at hopen
          exact absurd hopen hwas
        · rw [XrplSubmissionRecord.isOpen,hmoved] at hopen
          cases target with
          | submitting => cases hopen
          | unconfirmed => cases hopen
          | settled settlement => exact hclosed settlement rfl before hbefore hid
      · exact absurd hopen hwas
  · simp only [hrows]
    rw [pairwise_map]
    refine h.ordered.imp ?_
    intro earlier later hearlier haccount hsequence
    rw [hinput earlier] at haccount hsequence ⊢
    rw [hinput later] at haccount hsequence
    exact (hearlier haccount hsequence).grows hgrows

theorem SubmissionsSound.recorded (hmem : submission ∈ system.submissions) : ∃ row ∈ system.store.rows,
      row.toXrplSubmissionRecordInput = submission.signed.record submission.executionId := by
  obtain ⟨call,hcall,hid,hreservation,-⟩ := h.submitted submission hmem
  rw [← hid]
  exact h.reserved _ call _ hcall hreservation

theorem SubmissionsSound.reserves (hcall : system.calls[c]? = some call) (rails : Nat → RailState)
    {reservedAt : String} (answered : Bool) (hsigned : SignedSound D system call signed)
    (hstore : system.store.insertReservation (signed.record call.request.executionId) reservedAt = some store)
    (hfree : ∀ row ∈ system.store.rows, InterlockStore.Releases (signed.record call.request.executionId) signed.validated row) :
    SubmissionsSound D { system with
      rails := rails, store := store
      calls := system.calls.set c
        { call with phase := afterReservation signed answered, reservation := some signed } } := by
  obtain ⟨hnone,hrows⟩ := insertReservation_rows hstore
  have hfresh : ∀ row ∈ system.store.rows, row.executionId ≠ call.request.executionId :=
    find_eq_none_iff.1 hnone
  have hlength : c < system.calls.length := (List.getElem?_eq_some_iff.1 hcall).1
  -- No execution with this id has a reservation yet, so nothing was submitted for it.
  have hunreserved : ∀ (k : Nat) (other : RailCall), system.calls[k]? = some other →
      other.request.executionId = call.request.executionId → other.reservation = none := by
    intro k other hother hid
    cases hreservation : other.reservation with
    | none => rfl
    | some found =>
      obtain ⟨row,hrow,heq⟩ := h.reserved k other found hother hreservation
      have hrowId : row.executionId = other.request.executionId :=
        congrArg XrplSubmissionRecordInput.executionId heq
      exact absurd (hrowId.trans hid) (hfresh row hrow)
  have hunsubmitted : ∀ submission ∈ system.submissions, submission.call ≠ c := by
    intro submission hmem hc
    obtain ⟨before,hbefore,-,hreservation,-⟩ := h.submitted submission hmem
    rw [hc,hcall] at hbefore
    obtain rfl := some.inj hbefore
    rw [hunreserved c call hcall rfl] at hreservation
    cases hreservation
  have hgrows : Grows system { system with
      rails := rails, store := store
      calls := system.calls.set c
        { call with phase := afterReservation signed answered, reservation := some signed } } :=
    ⟨le_refl _,fun _ hi => hi,fun _ hmem => hmem,id,_,by rw [List.map_id]; exact hrows,
      fun _ => ⟨rfl,fun hopen => hopen⟩⟩
  refine ⟨?_,?_,?_,?_,h.once,?_,?_⟩
  · intro k other hother
    rcases getElem?_set_cases hother with ⟨rfl,rfl⟩ | ⟨-,hsame⟩
    · unfold afterReservation
      split_ifs
      · exact ⟨⟨hsigned.built,hsigned.validated,hsigned.decoded,hsigned.hashed⟩,rfl, hunsubmitted⟩
      · trivial
    · exact (h.calls k other hsame).grows hgrows fun _ hmem _ => hmem
  · intro k other found hother hreservation
    simp only [hrows,mem_append,mem_singleton]
    rcases getElem?_set_cases hother with ⟨rfl,rfl⟩ | ⟨-,hsame⟩
    · obtain rfl := some.inj hreservation
      exact ⟨_,.inr rfl,rfl⟩
    · obtain ⟨row,hrow,heq⟩ := h.reserved k other found hsame hreservation
      exact ⟨row,.inl hrow,heq⟩
  · intro k k' other other' hother hother' hsome hsome' hid
    rcases getElem?_set_cases hother with ⟨rfl,rfl⟩ | ⟨hk,hsame⟩
    · rcases getElem?_set_cases hother' with ⟨rfl,-⟩ | ⟨-,hsame'⟩
      · rfl
      · rw [hunreserved k' other' hsame' hid.symm] at hsome'
        cases hsome'
    · rcases getElem?_set_cases hother' with ⟨rfl,rfl⟩ | ⟨-,hsame'⟩
      · rw [hunreserved k other hsame hid] at hsome
        cases hsome
      · exact h.apart k k' other other' hsame hsame' hsome hsome' hid
  · intro submission hmem
    obtain ⟨before,hbefore,hid,hreservation,hsound⟩ := h.submitted submission hmem
    refine ⟨before,?_,hid,hreservation,hsound.grows hgrows⟩
    rw [List.getElem?_set_ne (fun heq => hunsubmitted submission hmem heq.symm)]
    exact hbefore
  · intro row hrow hopen
    simp only [hrows,mem_append,mem_singleton] at hrow
    rcases hrow with hold | rfl
    · exact (h.closed row hold hopen).grows hgrows
    · cases hopen
  · simp only [hrows]
    rw [pairwise_append]
    refine ⟨h.ordered.imp fun hearlier ha hs => (hearlier ha hs).grows hgrows,by simp,?_⟩
    intro earlier hearlier later hlater haccount hsequence
    obtain rfl := mem_singleton.1 hlater
    apply Closed.grows _ hgrows
    rcases hfree earlier hearlier haccount (le_of_eq hsequence.symm) with hclosed | hlast
    · exact h.closed earlier hearlier hclosed
    · exact .inl (.inr (.inr (hlast.trans hsigned.validated)))

theorem SubmissionsSound.submits (hcall : system.calls[c]? = some call) (rails : Nat → RailState)
    (hphase : call.phase = .submitting signed) (attempted : Bool) :
    SubmissionsSound D { system with
      rails := rails
      calls := system.calls.set c
        { call with phase := if attempted then .submitted signed else .closing signed }
      submissions := system.submissions ++ [⟨c,call.request.executionId,signed,attempted⟩] } := by
  have hlength : c < system.calls.length := (List.getElem?_eq_some_iff.1 hcall).1
  have hsound := h.calls c call hcall
  simp only [PhaseSound,hphase] at hsound
  obtain ⟨hsigned,hreservation,hunsubmitted⟩ := hsound
  have hold : ∀ submission ∈ system.submissions ++
      [(⟨c,call.request.executionId,signed,attempted⟩ : Submission)], submission ∈ system.submissions ∨
        submission = ⟨c,call.request.executionId,signed,attempted⟩ := by
    intro submission hmem
    simpa using hmem
  have hgrows : Grows system { system with
      rails := rails
      calls := system.calls.set c
        { call with phase := if attempted then .submitted signed else .closing signed }
      submissions := system.submissions ++ [⟨c,call.request.executionId,signed,attempted⟩] } :=
    ⟨le_refl _,fun _ hi => hi,fun _ hmem => mem_append_left _ hmem,id,[],by simp,
      fun _ => ⟨rfl,fun hopen => hopen⟩⟩
  refine ⟨?_,?_,?_,?_,?_,?_,?_⟩
  · intro k other hother
    rcases getElem?_set_cases hother with ⟨rfl,rfl⟩ | ⟨hk,hsame⟩
    · have hsent : ∀ phase, Sent D { system with
          rails := rails
          calls := system.calls.set k
            { call with phase := if attempted then .submitted signed else .closing signed }
          submissions := system.submissions ++ [⟨k,call.request.executionId,signed,attempted⟩] } k
          { call with phase := phase } signed attempted := by
        intro phase
        exact ⟨(hsigned.moved phase).grows hgrows,hreservation,
          mem_append_right _ (mem_singleton.2 rfl)⟩
      cases attempted
      · exact hsent _
      · exact hsent _
    · refine (h.calls k other hsame).grows hgrows ?_
      intro submission hmem hc
      rcases hold submission hmem with hmem | rfl
      · exact hmem
      · exact absurd hc.symm hk
  · intro k other found hother hfound
    rcases getElem?_set_cases hother with ⟨rfl,rfl⟩ | ⟨-,hsame⟩
    · exact h.reserved k call found hcall hfound
    · exact h.reserved k other found hsame hfound
  · intro k k' other other' hother hother' hsome hsome' hid
    rcases getElem?_set_cases hother with ⟨rfl,rfl⟩ | ⟨-,hsame⟩
    · rcases getElem?_set_cases hother' with ⟨rfl,-⟩ | ⟨-,hsame'⟩
      · rfl
      · exact h.apart k k' call other' hcall hsame' hsome hsome' hid
    · rcases getElem?_set_cases hother' with ⟨rfl,rfl⟩ | ⟨-,hsame'⟩
      · exact h.apart k k' other call hsame hcall hsome hsome' hid
      · exact h.apart k k' other other' hsame hsame' hsome hsome' hid
  · intro submission hmem
    rcases hold submission hmem with hmem | rfl
    · obtain ⟨before,hbefore,hid,hfound,hsound⟩ := h.submitted submission hmem
      refine ⟨before,?_,hid,hfound,hsound.grows hgrows⟩
      rw [List.getElem?_set_ne (fun heq => hunsubmitted submission hmem heq.symm)]
      exact hbefore
    · exact ⟨_,List.getElem?_set_self hlength,rfl,hreservation,(hsigned.moved _).grows hgrows⟩
  · rw [map_append,map_singleton,nodup_append]
    refine ⟨h.once,by simp,?_⟩
    intro k hk k' hk' heq
    obtain ⟨submission,hmem,rfl⟩ := mem_map.1 hk
    exact hunsubmitted submission hmem (heq.trans (mem_singleton.1 hk'))
  · intro row hrow hopen
    exact (h.closed row hrow hopen).grows hgrows
  · exact h.ordered.imp fun hearlier ha hs => (hearlier ha hs).grows hgrows

theorem SubmissionsSound.record_eq (hcall : system.calls[c]? = some call)
    (hreservation : call.reservation = some signed) {row : XrplSubmissionRecord}
    (hrow : row ∈ system.store.rows) (hid : row.executionId = call.request.executionId) :
    row.toXrplSubmissionRecordInput = signed.record call.request.executionId := by
  obtain ⟨own,hown,heq⟩ := h.reserved c call signed hcall hreservation
  have hownId : own.executionId = call.request.executionId :=
    congrArg XrplSubmissionRecordInput.executionId heq
  rw [inj_on_of_nodup_map system.store.nodup hrow hown (hid.trans hownId.symm)]
  exact heq

theorem SubmissionsSound.settlesQuietly (hcall : system.calls[c]? = some call)
    (hreservation : call.reservation = some signed)
    (hclosed : ∀ settlement, target = .settled settlement → Closed D system (signed.record call.request.executionId))
    (written : Option String) :
    SubmissionsSound D { system with
      store := settleQuietly system.store call.request.executionId signed target written } := by
  unfold settleQuietly
  cases written with
  | none => exact h
  | some updatedAt =>
    cases htransition : system.store.transition call.request.executionId signed.hash target
        updatedAt with
    | none =>
      simp only [htransition,getD_none]
      exact h
    | some store =>
      simp only [htransition,getD_some]
      apply h.transition htransition
      intro settlement htarget row hrow hid
      rw [h.record_eq hcall hreservation hrow hid]
      exact hclosed settlement htarget

theorem apply_sound (hcall : system.calls[c]? = some call) {effect : Effect}
    (houtcome : Outcome D system c call effect) :
    SubmissionsSound D (system.apply c call effect) := by
  obtain ⟨rail,phase,store,reservation,submission⟩ := effect
  cases houtcome with
  | «local» hstore hreservation hsubmission hphase =>
    obtain rfl : store = system.store := hstore
    obtain rfl : reservation = call.reservation := hreservation
    obtain rfl : submission = none := hsubmission
    exact h.goes hcall _ hphase
  | reserves signed reservedAt answered hsigned hstore hfree hreservation hsubmission hphase =>
    obtain rfl : reservation = some signed := hreservation
    obtain rfl : submission = none := hsubmission
    obtain rfl : phase = afterReservation signed answered := hphase
    exact h.reserves hcall _ answered hsigned hstore hfree
  | submits signed attempted hbefore hstore hreservation hsubmission hphase =>
    obtain rfl : store = system.store := hstore
    obtain rfl : reservation = call.reservation := hreservation
    obtain rfl : submission = some attempted := hsubmission
    obtain rfl : phase = if attempted then .submitted signed else .closing signed := hphase
    simp only [System.apply,hbefore]
    exact h.submits hcall _ hbefore attempted
  | settles signed attempted target written result hsent hclosed hstore hreservation hsubmission
      hphase hcompleted =>
    obtain rfl : reservation = call.reservation := hreservation
    obtain rfl : submission = none := hsubmission
    obtain rfl : phase = .answered result := hphase
    obtain rfl : store = settleQuietly system.store call.request.executionId signed target written :=
      hstore
    have hsettled := h.settlesQuietly hcall hsent.reserved hclosed written
    refine hsettled.goes hcall _ ?_
    cases result with
    | notCompleted => trivial
    | unconfirmed => trivial
    | completed reference =>
      obtain ⟨rfl,href,hdelivered⟩ := hcompleted reference rfl
      exact ⟨signed,⟨⟨hsent.sound.built,hsent.sound.validated,hsent.sound.decoded,
        hsent.sound.hashed⟩,hsent.reserved,hsent.submitted⟩,href,hdelivered⟩

theorem SubmissionsSound.advances (hcalls : system'.calls = system.calls)
    (hstore : system'.store = system.store)
    (hsubmissions : system'.submissions = system.submissions) (hgrows : Grows system system') :
    SubmissionsSound D system' := by
  refine ⟨?_,?_,?_,?_,?_,?_,?_⟩
  · intro c call hcall
    rw [hcalls] at hcall
    exact (h.calls c call hcall).grows hgrows fun _ hmem _ => hsubmissions ▸ hmem
  · rw [hcalls,hstore]
    exact h.reserved
  · rw [hcalls]
    exact h.apart
  · intro submission hmem
    rw [hsubmissions] at hmem
    obtain ⟨call,hcall,hid,hreservation,hsigned⟩ := h.submitted submission hmem
    exact ⟨call,hcalls ▸ hcall,hid,hreservation,hsigned.grows hgrows⟩
  · rw [hsubmissions]
    exact h.once
  · intro row hrow hopen
    rw [hstore] at hrow
    exact (h.closed row hrow hopen).grows hgrows
  · rw [hstore]
    exact h.ordered.imp fun hearlier ha hs => (hearlier ha hs).grows hgrows

theorem SubmissionsSound.starts (process : Nat) (request : PaymentExecutionRequest) :
    SubmissionsSound D { system with calls := system.calls ++
      [⟨process,request,startExecution D.sdk (D.options process) request,none⟩] } := by
  have hcases : ∀ (k : Nat) (other : RailCall),
      (system.calls ++ [(⟨process,request,startExecution D.sdk (D.options process) request,
        none⟩ : RailCall)])[k]? = some other →
      system.calls[k]? = some other ∨
        other = ⟨process,request,startExecution D.sdk (D.options process) request,none⟩ := by
    intro k other hother
    rw [List.getElem?_append] at hother
    split_ifs at hother with hk
    · exact .inl hother
    · exact .inr (mem_singleton.1 (mem_of_getElem? hother))
  have hgrows : Grows system { system with calls := system.calls ++
      [⟨process,request,startExecution D.sdk (D.options process) request,none⟩] } :=
    Grows.of_same rfl rfl rfl
  refine ⟨?_,?_,?_,?_,h.once,h.closed,h.ordered⟩
  · intro k other hother
    rcases hcases k other hother with hold | rfl
    · exact (h.calls k other hold).grows hgrows fun _ hmem _ => hmem
    · unfold startExecution
      cases hbuild : buildXrplPayment D.sdk (D.options process).configuration request with
      | error detail => trivial
      | ok transaction => exact hbuild
  · intro k other signed hother hreservation
    rcases hcases k other hother with hold | rfl
    · exact h.reserved k other signed hold hreservation
    · cases hreservation
  · intro k k' other other' hother hother' hsome hsome' hid
    rcases hcases k other hother with hold | rfl
    · rcases hcases k' other' hother' with hold' | rfl
      · exact h.apart k k' other other' hold hold' hsome hsome' hid
      · cases hsome'
    · cases hsome
  · intro submission hmem
    obtain ⟨call,hcall,hid,hreservation,hsigned⟩ := h.submitted submission hmem
    refine ⟨call,?_,hid,hreservation,hsigned.grows hgrows⟩
    rw [List.getElem?_append_left (List.getElem?_eq_some_iff.1 hcall).1]
    exact hcall

end

theorem SettlementHolds.closed {record : XrplSubmissionRecordInput}
    {settlement : XrplInterlockSettlement}
    (h : SettlementHolds system.ledger record settlement) : Closed D system record := by
  cases settlement with
  | validatedSuccess => exact .inl (.inl h)
  | validatedFailure => exact .inl (.inl h)
  | expired => exact .inl (.inr (.inr h))
  | malformed => exact h.elim
  | notSubmitted => exact h.elim

theorem includes_grows {ledger : Ledger} {details : Option (Json String)}
    (h : system.ledger.includes D submission details = some ledger) :
    Grows system { system with ledger := ledger } := by
  unfold Ledger.includes at h
  split at h
  · cases h
  · simp only at h
    split_ifs at h
    obtain rfl := some.inj h
    exact ⟨le_refl _,fun _ hi => mem_append_left _ hi,fun _ hmem => hmem,id,[],by simp,
      fun _ => ⟨rfl,fun hopen => hopen⟩⟩

theorem step_sound (h : SubmissionsSound D system) {event : Event}
    (htruthful : Truthful D system event) (hstep : step D system event = some system') :
    SubmissionsSound D system' := by
  cases step_cases hstep with
  | call process request => exact h.starts process request
  | readiness | crash => exact h.advances rfl rfl rfl (Grows.of_same rfl rfl rfl)
  | resume c resumption hcall heffect =>
    exact apply_sound h hcall (resume_outcome (h.calls c _ hcall) (htruthful _ hcall) heffect)
  | resolve executionId settlement updatedAt htransition =>
    apply h.transition htransition
    intro found htarget row hrow hid
    obtain rfl := XrplSubmissionState.settled.inj htarget
    exact (htruthful row hrow hid).closed
  | includes submission details hsent hledger =>
    exact h.advances rfl rfl rfl (includes_grows hledger)
  | validates =>
    exact h.advances rfl rfl rfl ⟨by simp,fun _ hi => hi,fun _ hmem => hmem,id,[],by simp,
      fun _ => ⟨rfl,fun hopen => hopen⟩⟩

theorem initial_sound (index : Int) : SubmissionsSound D (System.initial index) where
  calls := fun _ _ hcall => by simp [System.initial] at hcall
  reserved := fun _ _ _ hcall => by simp [System.initial] at hcall
  apart := fun _ _ _ _ hcall => by simp [System.initial] at hcall
  submitted := fun _ hmem => absurd hmem not_mem_nil
  once := nodup_nil
  closed := fun _ hrow => absurd hrow not_mem_nil
  ordered := List.Pairwise.nil

theorem run_sound {index : Int} {events : List Event}
    (h : StepsMeet (next D) (Truthful D) (System.initial index) events) :
    SubmissionsSound D (run D (System.initial index) events) := by
  apply StepsMeet.invariant _ (initial_sound index) h
  intro system event hinv htruthful
  cases hstep : step D system event with
  | none => simpa [next,hstep] using hinv
  | some system' => simpa [next,hstep] using step_sound hinv htruthful hstep

end Frontera.Xrpl
