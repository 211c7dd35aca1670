import Mathlib
import Frontera.Xrpl.Processes

/-! A payment is prepared only at a validated index a whole window past the first index the rail
observed, and a whole window past a ledger that closed after the rail started. Either puts it above
every transaction signed before the start. -/

namespace Frontera.Xrpl

open Frontera.Data Frontera.Text Option

/-- The validated index the payment of an execution was prepared at. -/
def RailPhase.preparedAt : RailPhase → Option Int
  | .filling _ validated | .checking _ validated | .signing _ validated => some validated
  | .reserving s | .committing s _ | .submitting s | .submitted s | .closing s | .polling s
  | .looking s _ | .settling s _ => some s.validated
  | _ => none

/-- Headers state the close time of the ledger they are of. -/
def HeadersTruthful (closeTime : Int → Int) : Event → Prop
  | .resume _ (.header (some raw)) =>
      ∀ header, readLedgerHeader raw = some header → header.closeTime = closeTime header.index
  | _ => True

section Quarantine

variable (closeTime : Int → Int)

/-- The index is a window past the first one the rail observed. -/
def RailState.PastFloor (rail : RailState) (validated : Int) : Prop :=
  ∃ first, rail.firstObserved = some first ∧ first + xrplRestartQuarantineLedgers ≤ validated

/-- The index is a window past a ledger that closed after the start. -/
def PastAnchor (startedAt validated : Int) : Prop :=
  ∃ anchor, startedAtCloseTime startedAt ≤ closeTime anchor ∧
    anchor + xrplRestartQuarantineLedgers ≤ validated

/-- The cached proof of a rail is of a ledger that closed after the start. -/
def RailState.ProvenRightly (startedAt : Int) (rail : RailState) : Prop :=
  ∀ anchor, rail.proven = some anchor → startedAtCloseTime startedAt ≤ closeTime anchor

/-- Where an execution stands, the quarantine has been passed as far as it says. -/
structure Quarantined (startedAt : Int) (rail : RailState) (phase : RailPhase) : Prop where
  heading : ∀ transaction validated, phase = .heading transaction validated → rail.PastFloor validated
  prepared : ∀ validated, phase.preparedAt = some validated →
    rail.PastFloor validated ∧ PastAnchor closeTime startedAt validated

/-- The first observed index is kept. -/
def RailState.Keeps (rail rail' : RailState) : Prop :=
  ∀ first, rail.firstObserved = some first → rail'.firstObserved = some first

variable {closeTime} {startedAt : Int} {rail rail' : RailState}

variable {validated : Int} {phase phase' : RailPhase} {options : RailOptions}

theorem RailState.PastFloor.keeps (h : rail.PastFloor validated) (hkeeps : rail.Keeps rail') :
    rail'.PastFloor validated := by
  obtain ⟨first,hfirst,hle⟩ := h
  exact ⟨first,hkeeps first hfirst,hle⟩

theorem Quarantined.keeps (h : Quarantined closeTime startedAt rail phase)
    (hkeeps : rail.Keeps rail') : Quarantined closeTime startedAt rail' phase where
  heading := fun transaction validated hphase =>
    (h.heading transaction validated hphase).keeps hkeeps
  prepared := fun validated hat =>
    ⟨(h.prepared validated hat).1.keeps hkeeps,(h.prepared validated hat).2⟩

theorem observeValidated_keeps (rail : RailState) (index : Int) :
    rail.Keeps (rail.observeValidated index) := by
  intro first hfirst
  simp [RailState.observeValidated,hfirst]

theorem observeValidated_proven (rail : RailState) (index : Int) :
    (rail.observeValidated index).proven = rail.proven := by
  unfold RailState.observeValidated
  split <;> rfl

theorem quarantined_cases (rail : RailState) (validated : Int) :
    rail.quarantined validated = .held ∨ rail.PastFloor validated ∧
        ((rail.quarantined validated = .released ∧ ∃ anchor, rail.proven = some anchor ∧
              anchor + xrplRestartQuarantineLedgers ≤ validated) ∨
          ∃ candidate, rail.quarantined validated = .reads candidate) := by
  unfold RailState.quarantined
  cases hfirst : rail.firstObserved with
  | none => exact .inl rfl
  | some first =>
    simp only
    split_ifs with hfloor hproven hcandidate
    · exact .inl rfl
    · refine .inr ⟨⟨first,hfirst,by omega⟩,.inl ⟨rfl,?_⟩⟩
      cases hp : rail.proven with
      | none => simp [hp] at hproven
      | some anchor => exact ⟨anchor,rfl,by simpa [hp] using hproven⟩
    · exact .inl rfl
    · exact .inr ⟨⟨first,hfirst,by omega⟩,.inr ⟨_,rfl⟩⟩

/-- A step of an execution that moves neither its preparation nor the quarantine. -/
structure Unmoved (rail rail' : RailState) (phase phase' : RailPhase) : Prop where
  first : rail'.firstObserved = rail.firstObserved
  proven : rail'.proven = rail.proven
  prepared : ∀ validated, phase'.preparedAt = some validated → phase.preparedAt = some validated
  noHeading : ∀ transaction validated, phase' ≠ .heading transaction validated

theorem Unmoved.quarantined (hmove : Unmoved rail rail' phase phase')
    (h : Quarantined closeTime startedAt rail phase) :
    Quarantined closeTime startedAt rail' phase' where
  heading := fun transaction validated hphase => absurd hphase (hmove.noHeading transaction validated)
  prepared := fun validated hat => by
    obtain ⟨⟨first,hfirst,hle⟩,hanchor⟩ := h.prepared validated (hmove.prepared validated hat)
    exact ⟨⟨first,hmove.first ▸ hfirst,hle⟩,hanchor⟩

/-- The three facts a resumed execution of a process has to keep. -/
structure Passes (closeTime : Int → Int) (startedAt : Int) (rail : RailState)
    (next : RailState × RailPhase) : Prop where
  keeps : rail.Keeps next.1
  proven : next.1.ProvenRightly closeTime startedAt
  phase : Quarantined closeTime startedAt next.1 next.2

theorem Unmoved.passes (hmove : Unmoved rail rail' phase phase')
    (hproven : rail.ProvenRightly closeTime startedAt)
    (h : Quarantined closeTime startedAt rail phase) :
    Passes closeTime startedAt rail (rail', phase') where
  keeps := fun _ hfirst => hmove.first.trans hfirst
  proven := fun anchor hanchor => hproven anchor (hmove.proven ▸ hanchor)
  phase := hmove.quarantined h

theorem unmoved_answered (rail : RailState) (phase : RailPhase) (result : PaymentRailResult) :
    Unmoved rail rail phase (.answered result) :=
  ⟨rfl,rfl,fun _ hat => (by cases hat),fun _ _ hphase => (by cases hphase)⟩

theorem unmoved_signed (signed : Signed) (hphase : phase.preparedAt = some signed.validated)
    (hphase' : phase'.preparedAt = some signed.validated)
    (hfirst : rail'.firstObserved = rail.firstObserved) (hproven : rail'.proven = rail.proven) :
    Unmoved rail rail' phase phase' where
  first := hfirst
  proven := hproven
  prepared := fun validated hat => by rw [hphase,← hphase',hat]
  noHeading := fun transaction validated heq => by
    rw [heq] at hphase'
    cases hphase'

theorem concludes_unmoved {signed : Signed} (hphase : phase.preparedAt = some signed.validated)
    (outcome : PaymentRailResult) :
    Unmoved rail (concludes rail signed outcome).1 phase (concludes rail signed outcome).2 := by
  unfold concludes
  split
  · exact unmoved_signed signed hphase rfl rfl rfl
  · exact unmoved_signed signed hphase rfl rfl rfl

theorem afterAutofill_unmoved (options : RailOptions) (rail : RailState)
    (transaction : XrplPaymentTransaction) (validated : Int) (raw : Option (Json String)) :
    Unmoved rail (afterAutofill options rail transaction validated raw).1
      (.filling transaction validated) (afterAutofill options rail transaction validated raw).2 := by
  have hchecking : ∀ (rail' : RailState) (prepared : XrplPreparedPayment),
      rail'.firstObserved = rail.firstObserved → rail'.proven = rail.proven →
      Unmoved rail rail' (.filling transaction validated) (.checking prepared validated) := by
    intro rail' prepared hfirst hproven
    exact ⟨hfirst,hproven,fun _ hat => hat,fun _ _ hphase => (by cases hphase)⟩
  fun_cases afterAutofill options rail transaction validated raw
  all_goals first
    | exact unmoved_answered _ _ _
    | exact hchecking _ _ rfl rfl

theorem afterSubmit_unmoved (rail : RailState) (signed : Signed) (raw : Option (Json String)) :
    Unmoved rail (afterSubmit rail signed raw).1 (.submitted signed) (afterSubmit rail signed raw).2 := by
  unfold afterSubmit
  split
  · exact concludes_unmoved rfl _
  · split
    · exact concludes_unmoved rfl _
    · exact concludes_unmoved rfl _
    · exact unmoved_signed signed rfl rfl rfl rfl

theorem afterLookup_unmoved (rail : RailState) (signed : Signed) (validatedIndex : Option Int)
    (raw : Option (Json String)) :
    Unmoved rail (afterLookup rail signed validatedIndex raw).1 (.looking signed validatedIndex)
      (afterLookup rail signed validatedIndex raw).2 := by
  have hpolling : Unmoved rail rail (.looking signed validatedIndex) (.polling signed) :=
    unmoved_signed signed rfl rfl rfl rfl
  unfold afterLookup
  split
  · exact hpolling
  · split
    · exact concludes_unmoved rfl _
    · exact concludes_unmoved rfl _
    · exact concludes_unmoved rfl _
    · exact concludes_unmoved rfl _
    · split
      · exact concludes_unmoved rfl _
      · exact hpolling
    · exact hpolling
    · exact hpolling

theorem afterIndex_passes (transaction : XrplPaymentTransaction)
    (hproven : rail.ProvenRightly closeTime startedAt) (raw : Option (Json String)) :
    Passes closeTime startedAt rail (afterIndex rail transaction raw) := by
  have hanswered : ∀ rail' : RailState, rail.Keeps rail' → rail'.proven = rail.proven →
      ∀ result, Passes closeTime startedAt rail (rail', .answered result) := by
    intro rail' hkeeps hsame result
    exact ⟨hkeeps,fun anchor hanchor => hproven anchor (hsame ▸ hanchor),
      fun _ _ hphase => (by cases hphase),fun _ hat => (by cases hat)⟩
  unfold afterIndex
  split
  · exact hanswered rail (fun _ hfirst => hfirst) rfl _
  · rename_i raw
    cases readLedgerIndex raw with
    | none => exact hanswered rail (fun _ hfirst => hfirst) rfl _
    | some validated =>
      have hkeeps := observeValidated_keeps rail validated
      have hsame := observeValidated_proven rail validated
      have hproven' : (rail.observeValidated validated).ProvenRightly closeTime startedAt :=
        fun anchor hanchor => hproven anchor (hsame ▸ hanchor)
      simp only
      rcases quarantined_cases (rail.observeValidated validated) validated with
        hheld | ⟨hfloor,⟨hreleased,anchor,hanchor,hle⟩ | ⟨candidate,hreads⟩⟩
      · rw [hheld]
        exact hanswered _ hkeeps hsame _
      · rw [hreleased]
        refine ⟨hkeeps,hproven',fun _ _ hphase => (by cases hphase),?_⟩
        intro at_ hat
        cases hat
        exact ⟨hfloor,anchor,hproven' anchor hanchor,hle⟩
      · rw [hreads]
        refine ⟨hkeeps,hproven',?_,fun _ hat => (by cases hat)⟩
        intro _ at_ hphase
        cases hphase
        exact hfloor

theorem provenBy_eq_some {header : Option LedgerHeader}
    (htruthful : ∀ found, header = some found → found.closeTime = closeTime found.index)
    (hproven : rail.ProvenRightly closeTime startedAt)
    (h : rail.provenBy startedAt validated header = some rail') :
    rail'.firstObserved = rail.firstObserved ∧ rail'.ProvenRightly closeTime startedAt ∧
      PastAnchor closeTime startedAt validated := by
  unfold RailState.provenBy at h
  cases header with
  | none => cases h
  | some found =>
    simp only at h
    split_ifs at h with hrefused
    push Not at hrefused
    obtain ⟨hindex,htime⟩ := hrefused
    have hcandidate : startedAtCloseTime startedAt ≤
        closeTime (validated - xrplRestartQuarantineLedgers) := by
      rw [← hindex,← htruthful found rfl]
      exact htime
    rw [← some.inj h]
    refine ⟨rfl,?_,validated - xrplRestartQuarantineLedgers,hcandidate,by omega⟩
    intro anchor hanchor
    rw [← some.inj hanchor]
    cases hp : rail.proven with
    | none => exact hcandidate
    | some proven =>
      simp only [Option.elim]
      rcases min_choice proven (validated - xrplRestartQuarantineLedgers) with hmin | hmin
      · rw [hmin]
        exact hproven proven hp
      · rw [hmin]
        exact hcandidate

theorem afterHeader_passes {transaction : XrplPaymentTransaction} {raw : Option (Json String)}
    (htruthful : ∀ answer, raw = some answer → ∀ header, readLedgerHeader answer = some header → header.closeTime = closeTime header.index)
    (hproven : rail.ProvenRightly closeTime options.startedAt) (hfloor : rail.PastFloor validated) :
    Passes closeTime options.startedAt rail (afterHeader options rail transaction validated raw) := by
  have hheader : ∀ found, raw.bind readLedgerHeader = some found →
      found.closeTime = closeTime found.index := by
    intro found hfound
    obtain ⟨answer,hraw,hread⟩ := bind_eq_some_iff.1 hfound
    exact htruthful answer hraw found hread
  unfold afterHeader
  cases h : rail.provenBy options.startedAt validated (raw.bind readLedgerHeader) with
  | none =>
    exact ⟨fun _ hfirst => hfirst,hproven,fun _ _ hphase => (by cases hphase), fun _ hat => (by cases hat)⟩
  | some rail' =>
    obtain ⟨hfirst,hproven',hanchor⟩ := provenBy_eq_some hheader hproven h
    have hkeeps : rail.Keeps rail' := fun first hf => hfirst.trans hf
    refine ⟨hkeeps,hproven',fun _ _ hphase => (by cases hphase),?_⟩
    intro at_ hat
    cases hat
    exact ⟨hfloor.keeps hkeeps,hanchor⟩

theorem resume_passes {D : Deployment} {store : InterlockStore} {executionId : String}
    {reservation : Option Signed} {resumption : Resumption} {effect : Effect}
    (htruthful : ∀ answer, resumption = .header (some answer) → ∀ header, readLedgerHeader answer = some header → header.closeTime = closeTime header.index)
    (hproven : rail.ProvenRightly closeTime options.startedAt)
    (hphase : Quarantined closeTime options.startedAt rail phase)
    (h : resume D options rail store executionId reservation phase resumption = some effect) :
    Passes closeTime options.startedAt rail (effect.rail, effect.phase) := by
  have hearly : ∀ phase', phase'.preparedAt = none →
      (∀ transaction validated, phase' ≠ .heading transaction validated) →
      Passes closeTime options.startedAt rail (rail, phase') := by
    intro phase' hnone hno
    refine ⟨fun _ hfirst => hfirst,hproven,fun t v heq => absurd heq (hno t v),?_⟩
    intro validated hat
    rw [hnone] at hat
    cases hat
  have hanswered : ∀ result, Passes closeTime options.startedAt rail (rail, .answered result) :=
    fun result => hearly _ rfl fun _ _ heq => (by cases heq)
  have hmoved : ∀ {rail' : RailState} {phase' : RailPhase}, Unmoved rail rail' phase phase' →
      Passes closeTime options.startedAt rail (rail', phase') :=
    fun hmove => hmove.passes hproven hphase
  unfold resume at h
  split at h
  · obtain rfl := some.inj h
    exact hearly _ rfl fun _ _ heq => (by cases heq)
  · obtain rfl := some.inj h
    simp only [Effect.local,afterRecorded]
    split
    · exact hanswered _
    · exact hanswered _
    · exact hearly _ rfl fun _ _ heq => (by cases heq)
  · obtain rfl := some.inj h
    simp only [Effect.local,afterConnect]
    split
    · exact hanswered _
    · split
      · exact hearly _ rfl fun _ _ heq => (by cases heq)
      · exact hanswered _
  · obtain rfl := some.inj h
    exact afterIndex_passes _ hproven _
  · obtain rfl := some.inj h
    refine afterHeader_passes ?_ hproven (hphase.heading _ _ rfl)
    intro answer hraw
    exact htruthful answer (by rw [hraw])
  · obtain rfl := some.inj h
    exact hmoved (afterAutofill_unmoved _ _ _ _ _)
  · obtain rfl := some.inj h
    simp only [Effect.local,afterBlocking]
    split
    · exact hanswered _
    · exact hanswered _
    · exact hmoved ⟨rfl,rfl,fun _ hat => hat,fun _ _ heq => (by cases heq)⟩
  · obtain rfl := some.inj h
    simp only [Effect.local,afterSign]
    split
    · exact hanswered _
    · split_ifs
      · exact hanswered _
      · exact hanswered _
      · exact hmoved ⟨rfl,rfl,fun _ hat => hat,fun _ _ heq => (by cases heq)⟩
  · rename_i signed reservedAt answered
    split_ifs at h
    · obtain rfl := some.inj h
      exact hanswered _
    · split at h
      · obtain rfl := some.inj h
        simp only [afterReservation]
        split
        · exact hmoved (unmoved_signed signed rfl rfl rfl rfl)
        · exact hanswered _
      · split at h <;> (obtain rfl := some.inj h; exact hanswered _)
  · rename_i signed
    split_ifs at h
    · obtain rfl := some.inj h
      exact hanswered _
    · obtain rfl := some.inj h
      simp only [Effect.local,afterDecision]
      split
      · exact hanswered _
      · exact hanswered _
      · exact hmoved (unmoved_signed signed rfl rfl rfl rfl)
  · rename_i signed head reservedAt answered
    split at h
    · obtain rfl := some.inj h
      simp only [afterReservation]
      split
      · exact hmoved (unmoved_signed signed rfl rfl rfl rfl)
      · exact hanswered _
    · obtain rfl := some.inj h
      exact hanswered _
  · obtain rfl := some.inj h
    exact hanswered _
  · obtain rfl := some.inj h
    exact hanswered _
  · rename_i signed attempted
    obtain rfl := some.inj h
    cases attempted
    · exact hmoved (unmoved_signed signed rfl rfl rfl rfl)
    · exact hmoved (unmoved_signed signed rfl rfl rfl rfl)
  · obtain rfl := some.inj h
    exact hmoved (afterSubmit_unmoved _ _ _)
  · obtain rfl := some.inj h
    exact hanswered _
  · rename_i signed
    obtain rfl := some.inj h
    exact hmoved (unmoved_signed signed rfl rfl rfl rfl)
  · rename_i signed raw
    obtain rfl := some.inj h
    exact hmoved (unmoved_signed signed rfl rfl rfl rfl)
  · obtain rfl := some.inj h
    exact hmoved (afterLookup_unmoved _ _ _ _)
  · obtain rfl := some.inj h
    exact hmoved (concludes_unmoved rfl _)
  · obtain rfl := some.inj h
    exact hmoved (concludes_unmoved rfl _)
  · obtain rfl := some.inj h
    exact hmoved (concludes_unmoved rfl _)
  · obtain rfl := some.inj h
    exact hmoved (concludes_unmoved rfl _)
  · obtain rfl := some.inj h
    exact hanswered _
  · cases h

/-- Every rail's proof is right, and every execution is past the quarantine of its rail. -/
structure QuarantineKept (closeTime : Int → Int) (D : Deployment) (system : System) : Prop where
  proven : ∀ process, (system.rails process).ProvenRightly closeTime (D.options process).startedAt
  calls : ∀ call ∈ system.calls, Quarantined closeTime (D.options call.process).startedAt
    (system.rails call.process) call.phase

variable {D : Deployment} {system system' : System}

theorem QuarantineKept.update (h : QuarantineKept closeTime D system) (process : Nat)
    (hkeeps : (system.rails process).Keeps rail')
    (hproven : rail'.ProvenRightly closeTime (D.options process).startedAt) :
    QuarantineKept closeTime D
      { system with rails := Function.update system.rails process rail' } where
  proven := fun other => by
    by_cases hother : other = process
    · subst hother
      simpa using hproven
    · simpa [Function.update_of_ne hother] using h.proven other
  calls := fun call hcall => by
    by_cases hother : call.process = process
    · subst hother
      simpa using (h.calls call hcall).keeps hkeeps
    · simpa [Function.update_of_ne hother] using h.calls call hcall

theorem step_quarantine (h : QuarantineKept closeTime D system) {event : Event}
    (htruthful : HeadersTruthful closeTime event) (hstep : step D system event = some system') :
    QuarantineKept closeTime D system' := by
  cases step_cases hstep with
  | call process request =>
    refine ⟨h.proven,?_⟩
    intro call hcall
    rw [List.mem_append,List.mem_singleton] at hcall
    rcases hcall with hold | rfl
    · exact h.calls call hold
    · simp only [startExecution]
      split
      · exact ⟨fun _ _ hphase => (by cases hphase),fun _ hat => (by cases hat)⟩
      · exact ⟨fun _ _ hphase => (by cases hphase),fun _ hat => (by cases hat)⟩
  | readiness process raw index =>
    apply h.update process (observeValidated_keeps _ index)
    intro anchor hanchor
    exact h.proven process anchor (observeValidated_proven _ index ▸ hanchor)
  | @resume c resumption call effect hcall heffect =>
    have hmem : call ∈ system.calls := List.mem_of_getElem? hcall
    have hpasses : Passes closeTime (D.options call.process).startedAt
        (system.rails call.process) (effect.rail, effect.phase) :=
      resume_passes (by rintro answer rfl; exact htruthful) (h.proven call.process)
        (h.calls call hmem) heffect
    have hupdated := h.update call.process hpasses.keeps hpasses.proven
    refine ⟨hupdated.proven,?_⟩
    intro other hother
    rcases List.mem_or_eq_of_mem_set hother with hold | rfl
    · exact hupdated.calls other hold
    · simpa [System.apply] using hpasses.phase
  | crash | resolve | includes | validates => exact ⟨h.proven,h.calls⟩

theorem run_quarantine {index : Int} {events : List Event}
    (h : StepsMeet (next D) (fun _ event => HeadersTruthful closeTime event)
      (System.initial index) events) :
    QuarantineKept closeTime D (run D (System.initial index) events) := by
  apply StepsMeet.invariant _ _ h
  · intro system event hinv htruthful
    cases hstep : step D system event with
    | none => simpa [next,hstep] using hinv
    | some system' => simpa [next,hstep] using step_quarantine hinv htruthful hstep
  · exact ⟨fun _ _ hanchor => (by cases hanchor),fun _ hcall => absurd hcall List.not_mem_nil⟩

end Quarantine

/-- Whatever indexes and headers a rail was told of, a payment it prepares is at a validated
index above the `LastLedgerSequence` of every transaction signed before it started. -/
theorem prepared_above_earlier_transactions {D : Deployment} {closeTime : Int → Int}
    (hclose : Monotone closeTime) {index : Int} {events : List Event}
    (htruthful : StepsMeet (next D) (fun _ event => HeadersTruthful closeTime event)
      (System.initial index) events)
    {process : Nat} {networkIndex preparedIndex lastLedgerSequence : Int}
    (hprepared : preparedIndex ≤ networkIndex)
    (hlast : lastLedgerSequence ≤ preparedIndex + xrplHistoricalMaxLastLedgerOffset)
    (hstart : closeTime networkIndex < startedAtCloseTime (D.options process).startedAt ∨
      ∀ first, ((run D (System.initial index) events).rails process).firstObserved = some first →
        networkIndex ≤ first)
    {call : RailCall} (hcall : call ∈ (run D (System.initial index) events).calls)
    (hprocess : call.process = process) {validated : Int}
    (hat : call.phase.preparedAt = some validated) :
    lastLedgerSequence < validated := by
  subst hprocess
  obtain ⟨⟨first,hfirst,hfloor⟩,anchor,hanchor,hpast⟩ :=
    ((run_quarantine htruthful).calls call hcall).prepared validated hat
  simp only [xrplRestartQuarantineLedgers,xrplHistoricalMaxLastLedgerOffset,
    xrplRestartQuarantineMargin] at hfloor hpast hlast
  rcases hstart with htime | hindex
  · -- A ledger at or below the network's index closed no later than it.
    have hafter : networkIndex < anchor := by
      by_contra hnot
      have hle := hclose (not_lt.1 hnot)
      omega
    omega
  · have hle := hindex first hfirst
    omega

def sampleIssuer : String := "rMxCKbEDwqr76QuheSUMdEGf4B9xJ8m5De"

def sampleAsset : XrplAsset := ⟨"RLUSD","USD",sampleIssuer⟩

def sampleConfiguration : XrplRlusdRailConfiguration where
  networkId := 1
  asset := sampleAsset
  sourceAccounts := [⟨"treasury","rPT1Sjq2YGrBMTttX4GZHjKu9dyfzbpAYe"⟩]
  lastLedgerOffset := 20
  maxFeeDrops := "1000"

def sampleOptions : RailOptions := ⟨sampleConfiguration,946688820000,fun _ => none⟩

def sampleRequest : PaymentExecutionRequest where
  executionId := "execution-1"
  source := ⟨"treasury"⟩
  destination := ⟨"xrpl-account","rPEPPER7kfTD9w2To4CQk6UCfuHM9c6GDY"⟩
  amount := ⟨"12.5","RLUSD"⟩

def samplePrepared : XrplPreparedPayment where
  account := "rPT1Sjq2YGrBMTttX4GZHjKu9dyfzbpAYe"
  destination := "rPEPPER7kfTD9w2To4CQk6UCfuHM9c6GDY"
  destinationTag := none
  amount := ⟨"USD",sampleIssuer,"12.5"⟩
  lastLedgerSequence := 1320
  sequence := 7
  fee := "12"

def sampleBlob : String := "1200002280000000240000000761D4838D7EA4C680000000000000000000000000"

def sampleHash : String := "4F1C0A9E5B7D3862F4A1C0E9D8B7A6954F1C0A9E5B7D3862F4A1C0E9D8B7A695"

def sampleSdk : XrplSdk where
  isValidClassicAddress := fun _ => true
  decodeSigned := fun blob => if blob = sampleBlob then some samplePrepared else none
  blobHash := fun blob => if blob = sampleBlob then sampleHash else blob
  signedByPinnedKey := fun _ _ => false

def sampleDeployment : Deployment where
  platform := tabulatedPlatform []
  sdk := sampleSdk
  scope := ⟨"store-1","xrpl-rlusd",1⟩
  options := fun _ => sampleOptions
  neverApplies := fun _ => false

def sampleServerInfo : Json String := .obj [("info", .obj [("network_id", .num 1)])]

def sampleHeader : Json String :=
  .obj [("ledger_index", .num 1096), ("close_time", .num 4384), ("validated", .bool true)]

/-- A rail that saw index 1000 at its start prepares at index 1300. -/
def restartEvents : List Event :=
  [.readiness 0 (.num 1000), .call 0 sampleRequest, .resume 0 .turn, .resume 0 (.recorded false),
    .resume 0 (.connected (.serverInfo sampleServerInfo)), .resume 0 (.index (some (.num 1300))),
    .resume 0 (.header (some sampleHeader))]

theorem restartEvents_prepared : ∃ call ∈ (run sampleDeployment (System.initial 1300) restartEvents).calls,
      call.process = 0 ∧ call.phase.preparedAt = some 1300 := by
  have h : (run sampleDeployment (System.initial 1300) restartEvents).calls.any
      (fun call => call.process = 0 ∧ call.phase.preparedAt = some 1300) = true := by
    decide
  simpa using h

theorem prepared_above_earlier_transactions_restart :
    ∃ call ∈ (run sampleDeployment (System.initial 1300) restartEvents).calls,
      call.phase.preparedAt = some 1300 ∧ (1200 : Int) < 1300 := by
  obtain ⟨call,hcall,hprocess,hat⟩ := restartEvents_prepared
  have hclose : Monotone fun i : Int => 4 * i := fun i j hij => by simpa using hij
  have htruthful : StepsMeet (next sampleDeployment)
      (fun _ event => HeadersTruthful (fun i => 4 * i) event) (System.initial 1300)
      restartEvents := by
    refine ⟨trivial,trivial,trivial,trivial,trivial,trivial,?_,trivial⟩
    intro header hheader
    have hread : readLedgerHeader sampleHeader = some ⟨1096,4384⟩ := by rfl
    rw [hread] at hheader
    rw [← Option.some.inj hheader]
    decide
  exact ⟨call,hcall,hat,prepared_above_earlier_transactions hclose htruthful (le_refl 1000)
    (by decide) (.inl (by decide)) hcall hprocess hat⟩

end Frontera.Xrpl
