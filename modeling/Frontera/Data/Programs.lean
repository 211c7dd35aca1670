import Frontera.Data.Runs
import Mathlib.Data.List.Basic

/-! A program is a pure value or an operation and a continuation for each answer. Any number of
programs run over one world: between two operations of one program the others take any number of
steps, and a program may be cut off at any operation. What a program does by itself is said of its
own trail of operations and answers; what holds of the world then follows by induction over the run.
-/

namespace Frontera.Data

open List

/-- The operations and what each answers. -/
structure Interface where
  Op : Type
  Answer : Op → Type

/-- An operation and the answer it got. -/
abbrev Interface.Entry (I : Interface) := Σ op : I.Op, I.Answer op

inductive Prog (I : Interface) (α : Type) where
  | pure (value : α)
  | ask (op : I.Op) (next : I.Answer op → Prog I α)

namespace Prog

variable {I : Interface} {α β : Type}

def bind : Prog I α → (α → Prog I β) → Prog I β
  | .pure value, f => f value
  | .ask op next, f => .ask op fun answer => (next answer).bind f

instance : Monad (Prog I) where
  pure := .pure
  bind := .bind

/-- One operation. -/
def perform (op : I.Op) : Prog I (I.Answer op) := .ask op .pure

/-- After this trail, the program performs an operation only where `pre` allows it, whatever
it is answered, and ends with a value of which `post` holds. -/
def Follows (pre : List I.Entry → I.Op → Prop) (post : List I.Entry → α → Prop) :
    List I.Entry → Prog I α → Prop
  | trail, .pure value => post trail value
  | trail, .ask op next => pre trail op ∧ ∀ answer, Follows pre post (trail ++ [⟨op,answer⟩]) (next answer)

variable {pre : List I.Entry → I.Op → Prop} {post post' : List I.Entry → α → Prop}
  {trail : List I.Entry}

@[simp] theorem follows_pure {value : α} :
    Follows pre post trail (pure value : Prog I α) ↔ post trail value := Iff.rfl

theorem Follows.bind {f : α → Prog I β} {post : List I.Entry → β → Prop} {x : Prog I α}
    (h : x.Follows pre (fun after value => (f value).Follows pre post after) trail) :
    (x >>= f).Follows pre post trail := by
  induction x generalizing trail with
  | pure value => exact h
  | ask op next ih => exact ⟨h.1,fun answer => ih answer (h.2 answer)⟩

end Prog

/-- How operations act: the environment's choice fixes the new state and the answer. -/
structure World (I : Interface) where
  State : Type
  Choice : I.Op → Type
  act : (op : I.Op) → State → Choice op → State × I.Answer op

variable {I : Interface} {W : World I} {ι α β E : Type}

/-- A program that runs alone, under these choices: the state it leaves, what it did, and its
value. -/
def Prog.exec (W : World I) (choice : (op : I.Op) → W.Choice op) :
    Prog I α → W.State → W.State × List I.Entry × α
  | .pure value, state => (state, [], value)
  | .ask op next, state =>
      let result := W.act op state (choice op)
      let rest := (next result.2).exec W choice result.1
      (rest.1, ⟨op,result.2⟩ :: rest.2.1, rest.2.2)

@[simp] theorem Prog.exec_pure (choice : (op : I.Op) → W.Choice op) (value : α) (state : W.State) :
    (Pure.pure value : Prog I α).exec W choice state = (state, [], value) := rfl

@[simp] theorem Prog.exec_perform_bind (choice : (op : I.Op) → W.Choice op) (op : I.Op)
    (f : I.Answer op → Prog I β) (state : W.State) :
    (Prog.perform op >>= f).exec W choice state =
      (((f (W.act op state (choice op)).2).exec W choice (W.act op state (choice op)).1).1,
        ⟨op,(W.act op state (choice op)).2⟩ ::
          ((f (W.act op state (choice op)).2).exec W choice (W.act op state (choice op)).1).2.1,
        ((f (W.act op state (choice op)).2).exec W choice (W.act op state (choice op)).1).2.2) :=
  rfl

theorem Prog.exec_bind_pure (choice : (op : I.Op) → W.Choice op) (x : Prog I α) (f : α → β)
    (state : W.State) :
    (x >>= fun value => Pure.pure (f value)).exec W choice state =
      ((x.exec W choice state).1, (x.exec W choice state).2.1, f (x.exec W choice state).2.2) := by
  induction x generalizing state with
  | pure value => rfl
  | ask op next ih =>
    have hrest := ih (W.act op state (choice op)).2 (W.act op state (choice op)).1
    change Prog.exec W choice
      (.ask op fun answer => next answer >>= fun value => Pure.pure (f value)) state = _
    simp only [Prog.exec,hrest]

/-- A world, the programs that run over it (`none` is one that was cut off), and what each
has done. -/
structure System (W : World I) (ι α : Type) where
  state : W.State
  calls : List (ι × Option (Prog I α))
  history : List (Nat × I.Entry)

inductive Event (W : World I) (ι E : Type) where
  | start (input : ι)
  /-- The call performs the operation it stands at. -/
  | resume (call : Nat) (choice : (op : I.Op) → W.Choice op)
  | crash (call : Nat)
  /-- The world changes by itself. -/
  | outside (event : E)

namespace System

variable (program : ι → Prog I α) (outside : E → W.State → W.State)

def next (system : System W ι α) : Event W ι E → System W ι α
  | .start input => { system with calls := system.calls ++ [(input, some (program input))] }
  | .resume call choice =>
    match system.calls[call]? with
    | some (input, some (.ask op next)) =>
      let result := W.act op system.state (choice op)
      { state := result.1
        calls := system.calls.set call (input, some (next result.2))
        history := system.history ++ [(call, ⟨op,result.2⟩)] }
    | _ => system
  | .crash call =>
    match system.calls[call]? with
    | some (input, some (.ask _ _)) =>
      { system with calls := system.calls.set call (input, none) }
    | _ => system
  | .outside event => { system with state := outside event system.state }

def run (system : System W ι α) (events : List (Event W ι E)) : System W ι α :=
  events.foldl (next program outside) system

/-- Nothing has been called yet. -/
def initial (state : W.State) : System W ι α := ⟨state,[],[]⟩

/-- The call with this number has ended with this value. -/
def Answered (system : System W ι α) (call : Nat) (input : ι) (value : α) : Prop :=
  system.calls[call]? = some (input, some (.pure value))

variable {program outside} (pre : ι → List I.Entry → I.Op → Prop)
  (post : ι → List I.Entry → α → Prop)

/-- What one call has done by this point of a history. -/
def trailOf (history : List (Nat × I.Entry)) (call : Nat) : List I.Entry :=
  (history.filter fun entry => entry.1 = call).map Prod.snd

/-- Every call goes on as its program does, calls that are not made yet did nothing, and
every operation performed so far was due. -/
structure Conforms (system : System W ι α) : Prop where
  calls : ∀ call input (x : Prog I α), system.calls[call]? = some (input, some x) →
    x.Follows (pre input) (post input) (trailOf system.history call)
  unmade : ∀ call, system.calls.length ≤ call → trailOf system.history call = []
  past : ∀ before later call op answer, system.history = before ++ (call, ⟨op,answer⟩) :: later →
    ∃ input, (system.calls[call]?).map Prod.fst = some input ∧ pre input (trailOf before call) op

variable {pre post}

@[simp] theorem trailOf_concat (history : List (Nat × I.Entry)) (call other : Nat)
    (entry : I.Entry) :
    trailOf (history ++ [(call, entry)]) other =
      if call = other then trailOf history other ++ [entry] else trailOf history other := by
  by_cases h : call = other <;> simp [trailOf,h]

theorem Conforms.initial {state : W.State} : Conforms pre post (initial state : System W ι α) where
  calls := by
    intro call input x h
    simp [System.initial] at h
  unmade := fun call _ => rfl
  past := by
    intro before later call op answer h
    simp [System.initial] at h

theorem concat_eq_append_cons {l before later : List β} {x y : β}
    (h : l ++ [x] = before ++ y :: later) :
    (before = l ∧ y = x) ∨ ∃ later', l = before ++ y :: later' := by
  rcases append_eq_append_iff.1 h with ⟨a,hbefore,hx⟩ | ⟨c,hl,hrest⟩
  · cases a with
    | nil =>
      simp only [append_nil,nil_append,List.cons.injEq] at hbefore hx
      exact .inl ⟨hbefore,hx.1.symm⟩
    | cons b bs => simp at hx
  · cases c with
    | nil =>
      simp only [append_nil,nil_append,List.cons.injEq] at hl hrest
      exact .inl ⟨hl.symm,hrest.1⟩
    | cons b bs =>
      simp only [cons_append,List.cons.injEq] at hrest
      exact .inr ⟨bs,by rw [hl,hrest.1]⟩

variable {system : System W ι α} {call : Nat} {input : ι}

theorem Conforms.next (h : Conforms pre post system)
    (hprogram : ∀ input, (program input).Follows (pre input) (post input) [])
    (event : Event W ι E) : Conforms pre post (system.next program outside event) := by
  cases event with
  | start input =>
    refine ⟨?_,?_,?_⟩
    · intro call other x hcall
      simp only [System.next] at hcall
      by_cases hlt : call < system.calls.length
      · rw [List.getElem?_append_left hlt] at hcall
        exact h.calls call other x hcall
      · rw [List.getElem?_append_right (by omega)] at hcall
        obtain ⟨hzero,heq⟩ := List.getElem?_eq_some_iff.1 hcall
        simp only [length_singleton,Nat.lt_one_iff] at hzero
        simp only [hzero,getElem_cons_zero,Prod.mk.injEq,Option.some.injEq] at heq
        obtain ⟨rfl,rfl⟩ := heq
        change Prog.Follows _ _ (trailOf system.history call) _
        rw [h.unmade call (by omega)]
        exact hprogram input
    · intro call hle
      simp only [System.next,length_append,length_singleton] at hle
      exact h.unmade call (by omega)
    · intro before later call op answer hhistory
      obtain ⟨other,hcall,hpre⟩ := h.past before later call op answer hhistory
      refine ⟨other,?_,hpre⟩
      obtain ⟨made,hmade,-⟩ := Option.map_eq_some_iff.1 hcall
      obtain ⟨hlt,-⟩ := List.getElem?_eq_some_iff.1 hmade
      simpa only [System.next,List.getElem?_append_left hlt] using hcall
  | resume call choice =>
    unfold System.next
    simp only
    split
    · rename_i input op next hcall
      obtain ⟨hlt,-⟩ := List.getElem?_eq_some_iff.1 hcall
      have hdue := h.calls call input _ hcall
      have hinputs : ∀ other : Nat, ((system.calls.set call
          (input, some (next (W.act op system.state (choice op)).2)))[other]?).map Prod.fst =
            (system.calls[other]?).map Prod.fst := by
        intro other
        by_cases hsame : call = other
        · subst hsame
          simp [List.getElem?_set_self hlt,hcall]
        · rw [List.getElem?_set_ne hsame]
      refine ⟨?_,?_,?_⟩
      · intro other input' x hother
        simp only [trailOf_concat]
        by_cases hsame : call = other
        · subst hsame
          rw [if_pos rfl]
          simp only [List.getElem?_set_self hlt,Option.some.injEq,Prod.mk.injEq] at hother
          obtain ⟨rfl,rfl⟩ := hother
          exact hdue.2 _
        · rw [if_neg hsame]
          simp only [List.getElem?_set_ne hsame] at hother
          exact h.calls other input' x hother
      · intro other hle
        simp only [length_set] at hle
        rw [trailOf_concat,if_neg (by omega)]
        exact h.unmade other hle
      · intro before later other op' answer hhistory
        simp only [hinputs]
        rcases concat_eq_append_cons hhistory with ⟨rfl,heq⟩ | ⟨later',hl⟩
        · simp only [Prod.mk.injEq] at heq
          obtain ⟨rfl,heq⟩ := heq
          cases heq
          exact ⟨input,by simp [hcall],hdue.1⟩
        · exact h.past before later' other op' answer hl
    · exact h
  | crash call =>
    unfold System.next
    simp only
    split
    · rename_i input op next hcall
      obtain ⟨hlt,-⟩ := List.getElem?_eq_some_iff.1 hcall
      refine ⟨?_,?_,?_⟩
      · intro other input' x hother
        by_cases hsame : call = other
        · subst hsame
          simp [List.getElem?_set_self hlt] at hother
        · simp only [List.getElem?_set_ne hsame] at hother
          exact h.calls other input' x hother
      · intro other hle
        simp only [length_set] at hle
        exact h.unmade other hle
      · intro before later other op' answer hhistory
        obtain ⟨input',hother,hpre⟩ := h.past before later other op' answer hhistory
        refine ⟨input',?_,hpre⟩
        by_cases hsame : call = other
        · subst hsame
          simpa [List.getElem?_set_self hlt,hcall] using hother
        · simpa only [List.getElem?_set_ne hsame] using hother
    · exact h
  | outside event => exact ⟨h.calls,h.unmade,h.past⟩

theorem Conforms.next_effect (h : Conforms pre post system) (program : ι → Prog I α)
    (outside : E → W.State → W.State) (event : Event W ι E) :
    ((system.next program outside event).state = system.state ∧
      (system.next program outside event).history = system.history) ∨
    (∃ call input op choice, (system.calls[call]?).map Prod.fst = some input ∧
      pre input (trailOf system.history call) op ∧
      (system.next program outside event).state = (W.act op system.state choice).1 ∧
      (system.next program outside event).history =
        system.history ++ [(call, ⟨op,(W.act op system.state choice).2⟩)] ∧
      ∃ x, (system.next program outside event).calls[call]? = some (input, some x)) ∨
    ∃ e, event = .outside e ∧ (system.next program outside event).state = outside e system.state ∧
      (system.next program outside event).history = system.history := by
  cases event with
  | start input => exact Or.inl ⟨rfl,rfl⟩
  | resume call choice =>
    unfold System.next
    simp only
    split
    · next input op next hcall =>
      obtain ⟨hlt,-⟩ := List.getElem?_eq_some_iff.1 hcall
      exact Or.inr (Or.inl ⟨call,input,op,choice op,by simp [hcall],
        (h.calls call input _ hcall).1,rfl,rfl,_,List.getElem?_set_self hlt⟩)
    · exact Or.inl ⟨rfl,rfl⟩
  | crash call =>
    unfold System.next
    simp only
    split <;> exact Or.inl ⟨rfl,rfl⟩
  | outside e => exact Or.inr (Or.inr ⟨e,rfl,rfl,rfl⟩)

theorem run_alone (program : ι → Prog I α) (outside : E → W.State → W.State)
    (system : System W ι α) (input : ι) (choice : (op : I.Op) → W.Choice op) :
    run program outside system (.start input :: List.replicate
        ((program input).exec W choice system.state).2.1.length
        (.resume system.calls.length choice)) =
      ⟨((program input).exec W choice system.state).1,
        system.calls ++ [(input, some (.pure ((program input).exec W choice system.state).2.2))],
        system.history ++ ((program input).exec W choice system.state).2.1.map
          fun entry => (system.calls.length, entry)⟩ := by
  have hrest : ∀ (x : Prog I α) (state : W.State) (history : List (Nat × I.Entry)),
      run program outside (⟨state,system.calls ++ [(input, some x)],history⟩ : System W ι α)
        (List.replicate (x.exec W choice state).2.1.length (.resume system.calls.length choice)) =
      ⟨(x.exec W choice state).1, system.calls ++ [(input, some (.pure (x.exec W choice state).2.2))],
        history ++ (x.exec W choice state).2.1.map fun entry => (system.calls.length, entry)⟩ := by
    intro x
    induction x with
    | pure value =>
      intro state history
      simp [Prog.exec,run]
    | ask op next ih =>
      intro state history
      have hstep : System.next program outside
          (⟨state,system.calls ++ [(input, some (.ask op next))],history⟩ : System W ι α)
          (.resume system.calls.length choice) = ⟨(W.act op state (choice op)).1,
              system.calls ++ [(input, some (next (W.act op state (choice op)).2))],
              history ++ [(system.calls.length, ⟨op,(W.act op state (choice op)).2⟩)]⟩ := by
        simp [System.next]
      simp only [Prog.exec,length_cons,replicate_succ,run,foldl_cons,hstep]
      rw [← run,ih]
      simp
  exact hrest (program input) system.state system.history

theorem inputs_next (system : System W ι α) (event : Event W ι E)
    (h : (system.calls[call]?).map Prod.fst = some input) :
    ((system.next program outside event).calls[call]?).map Prod.fst = some input := by
  obtain ⟨made,hmade,hinput⟩ := Option.map_eq_some_iff.1 h
  obtain ⟨hlt,-⟩ := List.getElem?_eq_some_iff.1 hmade
  cases event with
  | start input' => simpa [System.next,List.getElem?_append_left hlt] using h
  | resume other choice =>
    unfold System.next
    simp only
    split
    · next input' op next hcall =>
      by_cases hsame : other = call
      · subst hsame
        simpa [List.getElem?_set_self hlt,hcall] using h
      · simpa only [List.getElem?_set_ne hsame] using h
    · exact h
  | crash other =>
    unfold System.next
    simp only
    split
    · next input' op next hcall =>
      by_cases hsame : other = call
      · subst hsame
        simpa [List.getElem?_set_self hlt,hcall] using h
      · simpa only [List.getElem?_set_ne hsame] using h
    · exact h
  | outside e => exact h

theorem Answered.next {value : α} (h : system.Answered call input value) (event : Event W ι E) :
    (system.next program outside event).Answered call input value ∧
      trailOf (system.next program outside event).history call = trailOf system.history call := by
  obtain ⟨hlt,-⟩ := List.getElem?_eq_some_iff.1 h
  cases event with
  | start input' =>
    refine ⟨?_,rfl⟩
    simpa only [Answered,System.next,List.getElem?_append_left hlt] using h
  | resume other choice =>
    unfold System.next
    simp only
    split
    · next input' op next hcall =>
      have hsame : other ≠ call := by
        rintro rfl
        rw [Answered,hcall] at h
        simp at h
      refine ⟨?_,by simp [hsame]⟩
      simpa only [Answered,List.getElem?_set_ne hsame] using h
    · exact ⟨h,rfl⟩
  | crash other =>
    unfold System.next
    simp only
    split
    · next input' op next hcall =>
      have hsame : other ≠ call := by
        rintro rfl
        rw [Answered,hcall] at h
        simp at h
      refine ⟨?_,rfl⟩
      simpa only [Answered,List.getElem?_set_ne hsame] using h
    · exact ⟨h,rfl⟩
  | outside e => exact ⟨h,rfl⟩

/-- What every event keeps in a system whose calls go on as their programs do, every run from
such a system keeps. -/
theorem Conforms.run {Inv : System W ι α → Prop}
    (hprogram : ∀ input, (program input).Follows (pre input) (post input) [])
    (hstep : ∀ (system : System W ι α) event, Conforms pre post system → Inv system → Inv (system.next program outside event))
    (h : Conforms pre post system) (hinv : Inv system) (events : List (Event W ι E)) :
    Conforms pre post (System.run program outside system events) ∧
      Inv (System.run program outside system events) := by
  induction events generalizing system with
  | nil => exact ⟨h,hinv⟩
  | cons event events ih => exact ih (h.next hprogram event) (hstep system event h hinv)

variable {starts : ι → Prop} {allowed : (op : I.Op) → W.State → W.Choice op → Prop}
  {outsides : E → W.State → Prop}

end System

end Frontera.Data
