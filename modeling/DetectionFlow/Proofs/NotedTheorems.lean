import DetectionFlow.Notice
import Mathlib

/-!
# Computations one after the other

How results and notices of a sequence of `Noted` computations come from those of its parts, and what
it means that a list of computations succeeds: there is a list of values, one for each
(`Except.mapM_eq_ok`, `Noted.mapM_eq_ok`).
-/

namespace DetectionFlow

/-! ## Results alone -/

lemma Except.bind_eq_ok {ε α β : Type} {x : Except ε α} {f : α → Except ε β} {b : β} :
    (x >>= f) = .ok b ↔ ∃ a, x = .ok a ∧ f a = .ok b := by
  cases x with
  | error e => simp [bind, Except.bind]
  | ok a => simp [bind, Except.bind]

lemma Except.bind_eq_error {ε α β : Type} {x : Except ε α} {f : α → Except ε β} {e : ε} :
    (x >>= f) = .error e ↔ x = .error e ∨ ∃ a, x = .ok a ∧ f a = .error e := by
  cases x with
  | error e' => simp [bind, Except.bind]
  | ok a => simp [bind, Except.bind]

lemma Except.eq_ok_of_toOption {ε α : Type} {x : Except ε α} {a : α} (h : x.toOption = some a) :
    x = .ok a := by
  cases x with
  | error e => simp [Except.toOption] at h
  | ok b => exact congrArg _ (Option.some.inj h)

/-- All of a list of computations succeed exactly if each one does. -/
lemma Except.mapM_eq_ok {ε α β : Type} {f : α → Except ε β} {as : List α} {bs : List β} :
    as.mapM f = .ok bs ↔ List.Forall₂ (fun a b => f a = .ok b) as bs := by
  induction as generalizing bs with
  | nil => simp [pure, Except.pure, eq_comm]
  | cons a rest ih =>
    rw [List.mapM_cons]
    constructor
    · intro h
      obtain ⟨b, hb, h⟩ := Except.bind_eq_ok.mp h
      obtain ⟨bs', hbs', h⟩ := Except.bind_eq_ok.mp h
      obtain rfl : b :: bs' = bs := Except.ok.inj h
      exact .cons hb (ih.mp hbs')
    · rintro (_ | ⟨hb, hbs⟩)
      exact Except.bind_eq_ok.mpr ⟨_, hb, Except.bind_eq_ok.mpr ⟨_, ih.mpr hbs, rfl⟩⟩

/-- A list of computations fails exactly if one of them does. -/
lemma Except.mapM_fails {ε α β : Type} {f : α → Except ε β} {as : List α} :
    (∃ e, as.mapM f = .error e) ↔ ∃ a ∈ as, ∃ e, f a = .error e := by
  induction as with
  | nil => simp [pure, Except.pure]
  | cons a rest ih =>
    rw [List.mapM_cons]
    cases ha : f a with
    | error e => simp [bind, Except.bind, ha]
    | ok b =>
      simp only [List.mem_cons, exists_eq_or_imp, ha, reduceCtorEq, exists_false, false_or, ← ih]
      cases rest.mapM f <;> simp [bind, Except.bind, pure, Except.pure]

/-- The first member of a list that is told apart is its head, or comes later if the head is passed. -/
lemma exists_first_cons {α : Type} {P Q : α → Prop} {a : α} {as : List α} :
    (∃ before b after, a :: as = before ++ b :: after ∧ (∀ c ∈ before, P c) ∧ Q b) ↔
      Q a ∨ P a ∧ ∃ before b after, as = before ++ b :: after ∧ (∀ c ∈ before, P c) ∧ Q b := by
  constructor
  · rintro ⟨before, b, after, hsplit, hbefore, hb⟩
    cases before with
    | nil =>
      obtain ⟨rfl, rfl⟩ := List.cons.inj hsplit
      exact .inl hb
    | cons c before =>
      obtain ⟨rfl, rfl⟩ := List.cons.inj hsplit
      rw [List.forall_mem_cons] at hbefore
      exact .inr ⟨hbefore.1, before, b, after, rfl, hbefore.2, hb⟩
  · rintro (ha | ⟨ha, before, b, after, rfl, hbefore, hb⟩)
    · exact ⟨[], a, as, rfl, by simp, ha⟩
    · exact ⟨a :: before, b, after, rfl, List.forall_mem_cons.mpr ⟨ha, hbefore⟩, hb⟩

/-- A list of computations fails with the failure of the first one that fails. -/
lemma Except.mapM_eq_error {ε α β : Type} {f : α → Except ε β} {as : List α} {e : ε} :
    as.mapM f = .error e ↔ ∃ before a after, as = before ++ a :: after ∧
      (∀ b ∈ before, ∃ c, f b = .ok c) ∧ f a = .error e := by
  induction as with
  | nil => simp [pure, Except.pure]
  | cons a rest ih =>
    rw [List.mapM_cons, exists_first_cons]
    cases ha : f a with
    | error e' => simp [bind, Except.bind]
    | ok b =>
      have hstep : (do let bs ← rest.mapM f; pure (b :: bs) : Except ε (List β)) = .error e ↔
          rest.mapM f = .error e := by
        cases rest.mapM f <;> simp [bind, Except.bind, pure, Except.pure]
      refine hstep.trans (ih.trans ?_)
      simp

/-- If all that can fail fail alike, so does the list. -/
lemma Except.mapM_eq_error_of_same {ε α β : Type} {f : α → Except ε β} {as : List α} {e : ε}
    (hall : ∀ a ∈ as, (∃ b, f a = .ok b) ∨ f a = .error e) (hsome : ∃ a ∈ as, f a = .error e) :
    as.mapM f = .error e := by
  obtain ⟨a, ha, hfails⟩ := hsome
  obtain ⟨e', hmap⟩ := Except.mapM_fails.mpr ⟨a, ha, e, hfails⟩
  obtain ⟨before, a', after, rfl, -, hfails'⟩ := Except.mapM_eq_error.mp hmap
  rcases hall a' (by simp) with ⟨b, hb⟩ | hsame
  · cases hb.symm.trans hfails'
  · rw [hmap, Except.error.inj (hsame.symm.trans hfails')]

/-! ## Results with notices -/

namespace Noted

variable {α β : Type} {m : Noted α} {f : α → Noted β}

lemma ext_iff {m m' : Noted α} : m = m' ↔ m.notices = m'.notices ∧ m.result = m'.result := by
  cases m
  cases m'
  simp

lemma bind_of_ok {a : α} (h : m.result = .ok a) :
    (m >>= f) = ⟨m.notices ++ (f a).notices, (f a).result⟩ := by
  show andThen m f = _
  rw [andThen, h]

lemma bind_of_error {e : Failure} (h : m.result = .error e) :
    (m >>= f) = ⟨m.notices, .error e⟩ := by
  show andThen m f = _
  rw [andThen, h]

lemma bind_result_eq_ok {b : β} :
    (m >>= f).result = .ok b ↔ ∃ a, m.result = .ok a ∧ (f a).result = .ok b := by
  cases h : m.result with
  | error e => simp [bind_of_error h]
  | ok a => simp [bind_of_ok h]

lemma bind_result_eq_error {e : Failure} :
    (m >>= f).result = .error e ↔
      m.result = .error e ∨ ∃ a, m.result = .ok a ∧ (f a).result = .error e := by
  cases h : m.result with
  | error x => simp [bind_of_error h]
  | ok a => simp [bind_of_ok h]

@[simp] lemma pure_eq (a : α) : (pure a : Noted α) = ⟨[], .ok a⟩ := rfl

@[simp] lemma tell_bind (n : Notice) (f : Unit → Noted β) :
    (tell n >>= f) = ⟨n :: (f ()).notices, (f ()).result⟩ := rfl

@[simp] lemma tellAll_bind (ns : List Notice) (f : Unit → Noted β) :
    (tellAll ns >>= f) = ⟨ns ++ (f ()).notices, (f ()).result⟩ := rfl

private lemma id_map_noted (x : Noted α) : id <$> x = x := by
  show andThen x (fun a => done a) = x
  cases h : x.result <;> simp [andThen, h, done, ext_iff]

private lemma pure_bind_noted (a : α) (f : α → Noted β) : (pure a >>= f) = f a := by
  have hpure : (pure a : Noted α).result = .ok a := rfl
  rw [bind_of_ok hpure, pure_eq]
  simp

private lemma bind_assoc_noted {γ : Type} (x : Noted α) (f : α → Noted β) (g : β → Noted γ) :
    (x >>= f >>= g) = x >>= fun a => f a >>= g := by
  cases hx : x.result with
  | error e =>
    have hfirst : (x >>= f).result = .error e := by rw [bind_of_error hx]
    rw [bind_of_error hfirst, bind_of_error hx, bind_of_error hx]
  | ok a =>
    cases hf : (f a).result with
    | error e =>
      have hfirst : (x >>= f).result = .error e := by rw [bind_of_ok hx, hf]
      rw [bind_of_error hfirst, bind_of_ok hx, bind_of_ok hx, bind_of_error hf]
    | ok b =>
      have hfirst : (x >>= f).result = .ok b := by rw [bind_of_ok hx, hf]
      rw [bind_of_ok hfirst, bind_of_ok hx, bind_of_ok hx, bind_of_ok hf, List.append_assoc]

instance : LawfulMonad Noted :=
  LawfulMonad.mk' _ id_map_noted pure_bind_noted bind_assoc_noted

/-! ## Lists of computations -/

lemma mapM_eq_ok {as : List α} {bs : List β} {f : α → Noted β} :
    (as.mapM f).result = .ok bs ↔ List.Forall₂ (fun a b => (f a).result = .ok b) as bs := by
  induction as generalizing bs with
  | nil => simp [eq_comm]
  | cons a rest ih =>
    rw [List.mapM_cons]
    constructor
    · intro h
      obtain ⟨b, hb, h⟩ := bind_result_eq_ok.mp h
      obtain ⟨bs', hbs', h⟩ := bind_result_eq_ok.mp h
      obtain rfl : b :: bs' = bs := Except.ok.inj h
      exact .cons hb (ih.mp hbs')
    · rintro (_ | ⟨hb, hbs⟩)
      exact bind_result_eq_ok.mpr ⟨_, hb, bind_result_eq_ok.mpr ⟨_, ih.mpr hbs, rfl⟩⟩

lemma mapM_fails {as : List α} {f : α → Noted β} :
    (∃ e, (as.mapM f).result = .error e) ↔ ∃ a ∈ as, ∃ e, (f a).result = .error e := by
  induction as with
  | nil => simp
  | cons a rest ih =>
    rw [List.mapM_cons]
    cases ha : (f a).result with
    | error e => simp [bind_of_error ha, ha]
    | ok b =>
      simp only [List.mem_cons, exists_eq_or_imp, ha, reduceCtorEq, exists_false, false_or, ← ih,
        bind_of_ok ha]
      cases hrest : (rest.mapM f).result with
      | error e => simp [bind_of_error hrest]
      | ok bs => simp [bind_of_ok hrest]

/-- What a list of computations says is what its parts say, as long as all succeed. -/
lemma mapM_notices {as : List α} {f : α → Noted β}
    (h : ∀ a ∈ as, ∃ b, (f a).result = .ok b) :
    (as.mapM f).notices = as.flatMap fun a => (f a).notices := by
  induction as with
  | nil => rfl
  | cons a rest ih =>
    obtain ⟨b, hb⟩ := h a List.mem_cons_self
    have hrest := ih fun c hc => h c (List.mem_cons_of_mem _ hc)
    rw [List.mapM_cons, bind_of_ok hb, List.flatMap_cons, ← hrest]
    cases hr : (rest.mapM f).result with
    | error e => simp [bind_of_error hr]
    | ok bs => simp [bind_of_ok hr]

/-! ## Faults -/

/-- All failures are faults. -/
def OnlyFaults (m : Noted α) : Prop := ∀ e, m.result = .error e → ∃ f, e = .fault f

lemma onlyFaults_of_ok {a : α} (h : m.result = .ok a) : m.OnlyFaults := by
  intro e he
  cases h.symm.trans he

lemma onlyFaults_ofFault (x : Except Fault α) : (ofFault x).OnlyFaults := by
  intro e he
  cases x with
  | ok a => cases he
  | error f => exact ⟨f, (Except.error.inj he).symm⟩

lemma OnlyFaults.bind (hm : m.OnlyFaults) (hf : ∀ a, (f a).OnlyFaults) : (m >>= f).OnlyFaults := by
  intro e he
  rcases bind_result_eq_error.mp he with he | ⟨a, -, he⟩
  · exact hm e he
  · exact hf a e he

lemma onlyFaults_mapM {f : α → Noted β} (hf : ∀ a, (f a).OnlyFaults) (as : List α) :
    (as.mapM f).OnlyFaults := by
  induction as with
  | nil => exact onlyFaults_of_ok rfl
  | cons a rest ih =>
    rw [List.mapM_cons]
    exact (hf a).bind fun b => ih.bind fun bs => onlyFaults_of_ok rfl

lemma onlyFaults_foldlM {f : β → α → Noted β} (hf : ∀ b a, (f b a).OnlyFaults) (as : List α) (b : β) :
    (as.foldlM f b).OnlyFaults := by
  induction as generalizing b with
  | nil => exact onlyFaults_of_ok rfl
  | cons a rest ih =>
    rw [List.foldlM_cons]
    exact (hf b a).bind ih

end Noted
end DetectionFlow
