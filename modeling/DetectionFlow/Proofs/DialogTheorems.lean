import DetectionFlow.Dialog
import Mathlib

/-!
# The course of a dialog

What a dialog yields comes from what its parts yield (`Dialog.yields_bind`), and a question yields only an
answer that it does not refuse (`Dialog.accepted_of_ask`).

What is known of a dialog whatever the operator says is its promise (`Dialog.Promises`): a property of all
that it yields, and the one condition on which it may fail. The promise of a dialog comes from those of its parts
(`Dialog.Promises.bind`).

A question offers an answer of its own: its default, or the choices that are ticked (`Question.offer`). A
dialog takes the offers if it comes to an end on the answers in which each question is given what it offers
(`Dialog.Takes`).
-/

namespace DetectionFlow

lemma Value.eq_text_of_text? {v : Value} {s : String} (h : v.text? = some s) : v = .text s := by
  cases v <;> simp_all [Value.text?]

namespace Dialog

variable {α β : Type} {m : Dialog α} {f : α → Dialog β} {a : α} {b : β} {o o' : Operator}
  {q : Question} {v : Value}

/-! ## What a dialog yields -/

/-- What comes of a dialog with an operator, and what is left to say and was said then. -/
def runWith (m : Dialog α) (o : Operator) : Except Stop α × Operator := m.run.run o

lemma runWith_bind (m : Dialog α) (f : α → Dialog β) (o : Operator) :
    runWith (m >>= f) o = match runWith m o with
      | (.ok a, o₁) => runWith (f a) o₁
      | (.error e, o₁) => (.error e, o₁) := by
  show (match runWith m o with | (r, o₁) => (ExceptT.bindCont f r).run o₁) = _
  rcases runWith m o with ⟨e | a, o₁⟩ <;> rfl

/-- The dialog with an operator comes to an end with this result, and the operator is left like that. -/
def Yields (m : Dialog α) (o : Operator) (a : α) (o' : Operator) : Prop := runWith m o = (.ok a, o')

lemma yields_pure {c : α} : Yields (pure a) o c o' ↔ c = a ∧ o' = o := by
  show ((.ok a, o) : Except Stop α × Operator) = (.ok c, o') ↔ _
  simp [eq_comm]

lemma yields_bind : Yields (m >>= f) o b o' ↔ ∃ a o₁, Yields m o a o₁ ∧ Yields (f a) o₁ b o' := by
  rw [Yields, runWith_bind]
  simp only [Yields]
  rcases runWith m o with ⟨e | a, o₁⟩
  · simp
  · constructor
    · exact fun h => ⟨a, o₁, rfl, h⟩
    · rintro ⟨_, _, hm, h⟩
      obtain ⟨ha, rfl⟩ := Prod.mk.inj hm
      obtain rfl := Except.ok.inj ha
      exact h

lemma yields_map {g : α → β} :
    Yields (do return g (← m)) o b o' ↔ ∃ a, Yields m o a o' ∧ b = g a := by
  rw [yields_bind]
  constructor
  · rintro ⟨a, o₁, hm, hg⟩
    obtain ⟨rfl, rfl⟩ := yields_pure.mp hg
    exact ⟨a, hm, rfl⟩
  · rintro ⟨a, hm, rfl⟩
    exact ⟨a, o', hm, yields_pure.mpr ⟨rfl, rfl⟩⟩

lemma yields_ofFault {x : Except Fault α} : Yields (ofFault x) o a o' ↔ x = .ok a ∧ o' = o := by
  cases x with
  | error f =>
    show ((.error (.failure (.fault f)), o) : Except Stop α × Operator) = (.ok a, o') ↔ _
    simp
  | ok c =>
    rw [ofFault, yields_pure]
    simp [eq_comm]

lemma yields_print (line : String) : Yields (print line) o () (o.print (line ++ "\n")) := rfl

/-! ## Questions -/

/-- What comes of a question that was settled like that. -/
def resultOf : Outcome → Except Stop (Option Value)
  | .given v => .ok (some v)
  | .cancelled => .ok none
  | .interrupted => .error .interrupted

lemma runWith_ask (q : Question) (o : Operator) :
    runWith (ask q) o = (resultOf (settle q o.answers).2.2,
      ⟨(settle q o.answers).2.1, o.said ++ [.asked q] ++ (settle q o.answers).1⟩) := by
  have hget : runWith (getThe Operator : Dialog Operator) o = (.ok o, o) := rfl
  rw [ask, runWith_bind, hget]
  dsimp only
  rcases settle q o.answers with ⟨said, rest, outcome⟩
  cases outcome <;> rfl

/-- A question is settled by an answer that it does not refuse. -/
lemma refusal?_of_settle {answers : List Answer} (h : (settle q answers).2.2 = .given v) :
    q.refusal? v = none := by
  induction answers with
  | nil => cases h
  | cons answer rest ih =>
    cases answer with
    | cancel => cases h
    | interrupt => cases h
    | value w =>
      cases hw : q.refusal? w with
      | none =>
        rw [settle, hw] at h
        obtain rfl := Outcome.given.inj h
        exact hw
      | some why =>
        rw [settle, hw] at h
        exact ih h

lemma accepted_of_ask (h : Yields (ask q) o (some v) o') : q.refusal? v = none := by
  rw [Yields, runWith_ask] at h
  suffices hgiven : (settle q o.answers).2.2 = .given v from refusal?_of_settle hgiven
  cases houtcome : (settle q o.answers).2.2 with
  | given w =>
    rw [houtcome] at h
    obtain rfl := Option.some.inj (Except.ok.inj (Prod.mk.inj h).1)
    rfl
  | cancelled =>
    rw [houtcome] at h
    cases Except.ok.inj (Prod.mk.inj h).1
  | interrupted =>
    rw [houtcome] at h
    cases (Prod.mk.inj h).1

/-- An answer that is not refused is taken at once. -/
lemma yields_ask (h : q.refusal? v = none) (rest : List Answer) (said : List Utterance) :
    Yields (ask q) ⟨.value v :: rest, said⟩ (some v)
      ⟨rest, said ++ [.asked q, .answered (some v)]⟩ := by
  have hsettle : settle q (.value v :: rest) = ([.answered (some v)], rest, .given v) := by
    rw [settle, h]
  rw [Yields, runWith_ask, hsettle, List.append_assoc]
  rfl

/-! ### Typed and chosen texts -/

variable {message s : String} {default : Value} {complaint : String → Option String}
  {choices : List Choice}

lemma yields_askText (h : complaint s = none) (rest : List Answer) (said : List Utterance) :
    ∃ said', Yields (askText message default complaint) ⟨.value (.text s) :: rest, said⟩ (some s)
      ⟨rest, said'⟩ := by
  have hask := yields_ask (q := .text message default complaint) (v := .text s) h rest said
  exact ⟨_, yields_map.mpr ⟨_, hask, rfl⟩⟩

lemma yields_askOne (h : choices.any (·.isMeantBy (.text s)) = true) (rest : List Answer)
    (said : List Utterance) :
    ∃ said', Yields (askOne message choices) ⟨.value (.text s) :: rest, said⟩ (some s)
      ⟨rest, said'⟩ := by
  have hask := yields_ask (q := .select message choices .null) (v := .text s) (if_pos h) rest said
  exact ⟨_, yields_map.mpr ⟨_, hask, rfl⟩⟩

/-! ## Promises -/

/-- Whatever the operator says, what the dialog yields has this property, and the dialog fails on this condition
only. -/
structure Promises (m : Dialog α) (condition : Prop) (property : α → Prop) : Prop where
  yields : ∀ {o a o'}, Yields m o a o' → property a
  fails : ∀ {o e o'}, runWith m o = (.error (.failure e), o') → condition

variable {F : Prop} {P : α → Prop} {Q : β → Prop}

lemma promises_pure (ha : P a) : Promises (pure a) F P where
  yields h := (yields_pure.mp h).1 ▸ ha
  fails h := nomatch h

lemma Promises.bind (hm : Promises m F P) (hf : ∀ a, P a → Promises (f a) F Q) :
    Promises (m >>= f) F Q where
  yields h := by
    obtain ⟨a, o₁, ha, hb⟩ := yields_bind.mp h
    exact (hf a (hm.yields ha)).yields hb
  fails {o e o'} h := by
    rw [runWith_bind] at h
    rcases hrun : runWith m o with ⟨e' | a, o₁⟩
    · rw [hrun] at h
      obtain ⟨he, -⟩ := Prod.mk.inj h
      exact hm.fails (hrun.trans (by rw [Except.error.inj he]))
    · rw [hrun] at h
      exact (hf a (hm.yields hrun)).fails h

lemma Promises.mono {P' : α → Prop} (hm : Promises m F P) (h : ∀ a, P a → P' a) : Promises m F P' where
  yields ha := h _ (hm.yields ha)
  fails := hm.fails

lemma Promises.map (hm : Promises m F P) {g : α → β} (hg : ∀ a, P a → Q (g a)) :
    Promises (do return g (← m)) F Q :=
  hm.bind fun a ha => promises_pure (hg a ha)

/-- A dialog that goes on with what was given, and is over without it. -/
lemma Promises.andThen {m : Dialog (Option α)} {f : Option α → Dialog (Option β)}
    (hm : Promises m F fun given => ∀ a ∈ given, P a) (hnone : f none = pure none)
    (hf : ∀ a, P a → Promises (f (some a)) F fun given => ∀ b ∈ given, Q b) :
    Promises (m >>= f) F fun given => ∀ b ∈ given, Q b := by
  refine hm.bind fun given hgiven => ?_
  cases given with
  | none => exact hnone ▸ promises_pure (by simp)
  | some a => exact hf a (hgiven a rfl)

lemma promises_ofFault {x : Except Fault α} (hok : ∀ a, x = .ok a → P a)
    (herror : ∀ fault, x = .error fault → F) : Promises (ofFault x) F P where
  yields h := hok _ (yields_ofFault.mp h).1
  fails {o e o'} h := by
    cases x with
    | error fault => exact herror fault rfl
    | ok a => cases h

lemma promises_ofFault_of_ok {x : Except Fault α} {shown : Prop} (h : shown → ∃ a, x = .ok a) :
    Promises (ofFault x) (¬ shown) fun _ => True := by
  refine promises_ofFault (fun _ _ => trivial) fun fault hfault hshown => ?_
  obtain ⟨a, ha⟩ := h hshown
  cases hfault.symm.trans ha

lemma promises_print (line : String) : Promises (print line) F fun _ => True where
  yields _ := trivial
  fails h := nomatch h

lemma promises_rounds : Promises rounds F fun _ => True where
  yields _ := trivial
  fails h := nomatch h

/-- A dialog that goes through all items. -/
lemma promises_forIn {γ : Type} {items : List γ} {f : γ → PUnit → Dialog (ForInStep PUnit)}
    (h : ∀ c ∈ items, Promises (f c ⟨⟩) F fun step => step = .yield ⟨⟩) :
    Promises (forIn items PUnit.unit f) F fun _ => True := by
  induction items with
  | nil => exact promises_pure trivial
  | cons c rest ih =>
    rw [List.forall_mem_cons] at h
    rw [List.forIn_cons]
    refine h.1.bind fun step hstep => ?_
    subst hstep
    exact ih h.2

lemma promises_ask (q : Question) : Promises (ask q) F fun given => ∀ v ∈ given, q.refusal? v = none where
  yields h v hv := by
    obtain rfl := Option.mem_def.mp hv
    exact accepted_of_ask h
  fails {o e o'} h := by
    rw [runWith_ask] at h
    obtain ⟨hresult, -⟩ := Prod.mk.inj h
    cases houtcome : (settle q o.answers).2.2 <;> rw [houtcome] at hresult <;> cases hresult

lemma promises_askText : Promises (askText message default complaint) F
    fun given => ∀ s ∈ given, complaint s = none := by
  refine (promises_ask _).map fun given hgiven s hs => ?_
  obtain ⟨v, rfl, hv⟩ := Option.bind_eq_some_iff.mp hs
  obtain rfl := Value.eq_text_of_text? hv
  exact hgiven _ rfl

lemma refusal?_select_eq_none :
    (Question.select message choices default).refusal? v = none ↔ choices.any (·.isMeantBy v) = true := by
  rw [Question.refusal?]
  split <;> simp_all

lemma promises_askSelect : Promises (askSelect message choices default) F
    fun given => ∀ v ∈ given, choices.any (·.isMeantBy v) = true where
  yields h v hv := refusal?_select_eq_none.mp ((promises_ask (F := F) _).yields h v hv)
  fails h := (promises_ask _).fails h

lemma promises_askOne : Promises (askOne message choices) F
    fun given => ∀ s ∈ given, choices.any (·.isMeantBy (.text s)) = true := by
  refine (promises_ask _).map fun given hgiven s hs => ?_
  obtain ⟨v, rfl, hv⟩ := Option.bind_eq_some_iff.mp hs
  obtain rfl := Value.eq_text_of_text? hv
  exact refusal?_select_eq_none.mp (hgiven _ rfl)

lemma promises_askConfirm {default : Bool} : Promises (askConfirm message default) F fun _ => True :=
  (promises_ask _).map fun _ _ => trivial

end Dialog

/-! ## Offers -/

/-- What a question offers as its answer: its default, or the choices that are ticked. -/
def Question.offer : Question → Value
  | select _ _ default => default
  | checkbox _ choices => .list (choices.filterMap fun
    | .titled _ v none true => some v
    | _ => none)
  | text _ default _ => default
  | confirm _ default => .bool default

/-- Every question was given the answer that it offers. -/
inductive Complies : List Utterance → Prop
  | nothing : Complies []
  | printed {said : List Utterance} (h : Complies said) (s : String) : Complies (said ++ [.printed s])
  | answered {said : List Utterance} (h : Complies said) (q : Question) :
    Complies (said ++ [.asked q, .answered (some q.offer)])

lemma Operator.print_eq (o : Operator) (s : String) : o.print s = ⟨o.answers, (o.print s).said⟩ := by
  unfold Operator.print
  split <;> rfl

namespace Complies

variable {said : List Utterance}

lemma dropLast (h : Complies said) {s : String} (hlast : said.getLast? = some (.printed s)) :
    Complies said.dropLast := by
  cases h with
  | nothing => exact nothing
  | printed h _ => rwa [List.dropLast_concat]
  | answered h q => simp at hlast

lemma print {o : Operator} (h : Complies o.said) (s : String) : Complies (o.print s).said := by
  unfold Operator.print
  split
  next hlast => exact (h.dropLast hlast).printed _
  next => exact h.printed s

end Complies

namespace Dialog

variable {α β : Type} {m : Dialog α} {f : α → Dialog β} {a : α} {b : β} {q : Question}

/-- On some answers the dialog comes to an end with this result, and in its course every question is given
the answer that it offers. -/
def Takes (m : Dialog α) (a : α) : Prop :=
  ∃ answers, ∀ rest said, Complies said →
    ∃ said', Complies said' ∧ Yields m ⟨answers ++ rest, said⟩ a ⟨rest, said'⟩

lemma takes_pure (a : α) : Takes (pure a) a :=
  ⟨[], fun _ said hsaid => ⟨said, hsaid, yields_pure.mpr ⟨rfl, rfl⟩⟩⟩

lemma Takes.bind (hm : Takes m a) (hf : Takes (f a) b) : Takes (m >>= f) b := by
  obtain ⟨first, hm⟩ := hm
  obtain ⟨second, hf⟩ := hf
  -- The first part leaves the answers of the second one in front of the rest.
  refine ⟨first ++ second, fun rest said hsaid => ?_⟩
  obtain ⟨said₁, hsaid₁, hyields₁⟩ := hm (second ++ rest) said hsaid
  obtain ⟨said₂, hsaid₂, hyields₂⟩ := hf rest said₁ hsaid₁
  rw [List.append_assoc]
  exact ⟨said₂, hsaid₂, yields_bind.mpr ⟨a, _, hyields₁, hyields₂⟩⟩

lemma Takes.map (hm : Takes m a) (g : α → β) : Takes (do return g (← m)) (g a) :=
  hm.bind (takes_pure (g a))

lemma takes_ofFault {x : Except Fault α} (h : x = .ok a) : Takes (ofFault x) a :=
  ⟨[], fun _ said hsaid => ⟨said, hsaid, yields_ofFault.mpr ⟨h, rfl⟩⟩⟩

lemma takes_print (line : String) : Takes (print line) () := by
  refine ⟨[], fun rest said hsaid => ?_⟩
  have hyields := yields_print line (o := ⟨rest, said⟩)
  rw [Operator.print_eq] at hyields
  exact ⟨_, Complies.print (o := ⟨rest, said⟩) hsaid _, hyields⟩

/-- A question that does not refuse its own offer can be given it. -/
lemma takes_ask (h : q.refusal? q.offer = none) : Takes (ask q) (some q.offer) :=
  ⟨[.value q.offer], fun rest said hsaid => ⟨_, hsaid.answered q, yields_ask h rest said⟩⟩

lemma takes_askConfirm {message : String} (default : Bool) :
    Takes (askConfirm message default) (some default) :=
  (takes_ask (q := .confirm message default) rfl).map fun given => given.map Value.isTruthy

lemma takes_forIn {γ : Type} {items : List γ} {f : γ → PUnit → Dialog (ForInStep PUnit)}
    (h : ∀ c ∈ items, Takes (f c ⟨⟩) (.yield ⟨⟩)) : Takes (forIn items PUnit.unit f) ⟨⟩ := by
  induction items with
  | nil => exact takes_pure _
  | cons c rest ih =>
    rw [List.forall_mem_cons] at h
    rw [List.forIn_cons]
    exact h.1.bind (ih h.2)

end Dialog

end DetectionFlow
