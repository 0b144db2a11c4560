import TiMcu.Lib.Dialog

/-!
# Devices that act on their own

Between two questions of a program things happen in a device.  A `Live` device says what, and what is assumed of these
events and of the moments of the questions.  `Amid` is a device with a plan of the events before each question, whatever
it is; its flag says whether all that was assumed held so far.

`Triple` speaks of every plan.  What holds before a question has to be `Stable`, that is kept by the events.
-/

structure Live (τ ρ σ ε : Type) where
  answer : σ → τ → ρ × σ
  happen : σ → ε → σ
  fair : σ → ε → Bool
  timely : σ → τ → Bool

/-- A device, the events before each of the next questions, and whether everything was fair and timely. -/
structure Amid (σ ε : Type) where
  state : σ
  plan : List (List ε)
  fair : Bool

namespace Live

variable {τ ρ σ ε α β : Type} (l : Live τ ρ σ ε)

def happens (s : σ × Bool) (es : List ε) : σ × Bool :=
  es.foldl (fun s e => (l.happen s.1 e, s.2 && l.fair s.1 e)) s

/-- A question, with the events before it. -/
def step (a : Amid σ ε) (t : τ) : ρ × Amid σ ε :=
  let s := l.happens (a.state, a.fair) (a.plan.headD [])
  let r := l.answer s.1 t
  (r.1, ⟨r.2, a.plan.tail, s.2 && l.timely s.1 t⟩)

def perform (p : Dialog τ ρ α) : StateM (Amid σ ε) α := fun a =>
  let o := Dialog.run l.step a p
  (o.result, o.state)

theorem perform_bind (p : Dialog τ ρ α) (g : α → Dialog τ ρ β) :
    l.perform (p >>= g) = l.perform p >>= fun a => l.perform (g a) := by
  funext a
  change ((Dialog.run l.step a (p >>= g)).result, (Dialog.run l.step a (p >>= g)).state) = _
  rw [Dialog.run_bind]
  rfl

/-- Everything fair keeps it. -/
def Stable (pre : σ → Prop) : Prop := ∀ s e, pre s → l.fair s e = true → pre (l.happen s e)

theorem stable_happens {pre : σ → Prop} (h : l.Stable pre) (s : σ × Bool) (es : List ε) :
    (l.happens s es).2 = true → s.2 = true ∧ (pre s.1 → pre (l.happens s es).1) := by
  induction es generalizing s with
  | nil => exact fun hs => ⟨hs, id⟩
  | cons e es ih =>
    intro hfair
    obtain ⟨hfirst, hrest⟩ := ih (l.happen s.1 e, s.2 && l.fair s.1 e) hfair
    obtain ⟨hs, he⟩ := Bool.and_eq_true_iff.1 hfirst
    exact ⟨hs, fun hpre => hrest (h s.1 e hpre he)⟩

/-- What was not fair stays so. -/
def Honest (x : StateM (Amid σ ε) α) : Prop := ∀ a, let r : α × Amid σ ε := x a; r.2.fair = true → a.fair = true

/-- For every plan: `post` follows from `pre` when all is fair and timely. -/
def Triple (pre : σ → Prop) (x : StateM (Amid σ ε) α) (post : α → σ → Prop) : Prop :=
  ∀ a, let r : α × Amid σ ε := x a
    a.fair = true → r.2.fair = true → pre a.state → post r.1 r.2.state

variable {pre pre' : σ → Prop} {x : StateM (Amid σ ε) α} {post post' : α → σ → Prop}

theorem honest_pure (a : α) : Honest (pure a : StateM (Amid σ ε) α) := fun _ => id

theorem Honest.bind {f : α → StateM (Amid σ ε) β} (h : Honest x) (hf : ∀ a, Honest (f a)) : Honest (x >>= f) :=
  fun a hfair => h a (hf _ _ hfair)

theorem honest_perform (p : Dialog τ ρ α) : Honest (l.perform p) := by
  induction p with
  | done a => exact fun _ => id
  | ask t next ih =>
    intro a r hfair
    have hstep : (l.step a t).2.fair = true := ih _ _ hfair
    have hstable : l.Stable fun _ => True := fun _ _ _ _ => trivial
    exact (l.stable_happens hstable _ _ (Bool.and_eq_true_iff.1 hstep).1).1

theorem triple_pure {a : α} (h : ∀ s, pre s → post a s) : Triple pre (pure a : StateM (Amid σ ε) α) post :=
  fun _ _ _ => h _

theorem Triple.mono (h : Triple pre x post) (hpre : ∀ s, pre' s → pre s) (hpost : ∀ a s, post a s → post' a s) :
    Triple pre' x post' := fun a ha hx hp => hpost _ _ (h a ha hx (hpre _ hp))

/-- A fact that does not speak of the device. -/
theorem Triple.of_fact {c : Prop} (hc : ∀ s, pre s → c) (h : c → Triple pre x post) : Triple pre x post :=
  fun a ha hx hp => h (hc _ hp) a ha hx hp

theorem Triple.of_exists {ι : Type} {pre : ι → σ → Prop} (h : ∀ i, Triple (pre i) x post) :
    Triple (fun s => ∃ i, pre i s) x post := fun a ha hx ⟨i, hi⟩ => h i a ha hx hi

theorem Triple.bind {f : α → StateM (Amid σ ε) β} {post' : β → σ → Prop} (h : Triple pre x post)
    (hf : ∀ a, Triple (post a) (f a) post') (hhonest : ∀ a, Honest (f a)) : Triple pre (x >>= f) post' :=
  fun a ha hx hp => hf _ _ (hhonest _ _ hx) hx (h a ha (hhonest _ _ hx) hp)

/-- Programs one after the other. -/
theorem Triple.andThen {p : Dialog τ ρ α} {g : α → Dialog τ ρ β} {Q : α → σ → Prop} {post : β → σ → Prop}
    (h : Triple pre (l.perform p) Q) (hg : ∀ a, Triple (Q a) (l.perform (g a)) post) :
    Triple pre (l.perform (p >>= g)) post := by
  rw [perform_bind]
  exact h.bind hg fun a => l.honest_perform (g a)

theorem triple_question {t : τ} {post : ρ → σ → Prop} (hstable : l.Stable pre)
    (h : ∀ s, pre s → l.timely s t = true → post (l.answer s t).1 (l.answer s t).2) :
    Triple pre (l.perform (Dialog.question t)) post := by
  intro a r ha hfair hp
  obtain ⟨hhappens, htimely⟩ := Bool.and_eq_true_iff.1 hfair
  obtain ⟨-, hkept⟩ := l.stable_happens hstable (a.state, a.fair) (a.plan.headD []) hhappens
  exact h _ (hkept hp) htimely

/-! ### Programs with a state of their own -/

variable {κ : Type}

/-- `pre` and `post` also speak of the state of the program. -/
structure Does (pre : κ → σ → Prop) (x : StateT κ (StateM (Amid σ ε)) α) (post : α → κ → σ → Prop) : Prop where
  honest : ∀ k, Honest (x.run k)
  triple : ∀ k, Triple (pre k) (x.run k) fun y s => post y.1 y.2 s

/-- What leaves the state of the program as it is. -/
def amid (x : StateM (Amid σ ε) α) : StateT κ (StateM (Amid σ ε)) α := fun k => do
  let a ← x
  pure (a, k)

/-- A program of questions is performed. -/
def serve (p : Dialog τ ρ α) : StateT κ (StateM (Amid σ ε)) α := amid (l.perform p)

section

variable {pre : κ → σ → Prop} {x : StateT κ (StateM (Amid σ ε)) α} {post : α → κ → σ → Prop}

theorem does_amid {x : StateM (Amid σ ε) α} (hhonest : Honest x)
    (h : ∀ k, Triple (pre k) x fun a s => post a k s) : Does pre (amid x) post where
  honest k := hhonest.bind fun a => honest_pure (a, k)
  triple k := (h k).bind (fun _ => triple_pure fun _ hs => hs) fun a => honest_pure (a, k)

theorem does_pure {a : α} (h : ∀ k s, pre k s → post a k s) :
    Does pre (pure a : StateT κ (StateM (Amid σ ε)) α) post where
  honest k := honest_pure (a, k)
  triple k := triple_pure (h k)

theorem does_modify {f : κ → κ} {post : PUnit → κ → σ → Prop} (h : ∀ k s, pre k s → post ⟨⟩ (f k) s) :
    Does pre (modify f : StateT κ (StateM (Amid σ ε)) PUnit) post where
  honest k := honest_pure (PUnit.unit, f k)
  triple k := triple_pure (h k)

theorem does_get {post : κ → κ → σ → Prop} (h : ∀ k s, pre k s → post k k s) :
    Does pre (get : StateT κ (StateM (Amid σ ε)) κ) post where
  honest k := honest_pure (k, k)
  triple k := triple_pure (h k)

theorem Does.bind {f : α → StateT κ (StateM (Amid σ ε)) β} {post' : β → κ → σ → Prop} (h : Does pre x post)
    (hf : ∀ a, Does (post a) (f a) post') : Does pre (x >>= f) post' where
  honest k := (h.honest k).bind fun y => (hf y.1).honest y.2
  triple k := (h.triple k).bind (fun y => (hf y.1).triple y.2) fun y => (hf y.1).honest y.2

theorem Does.mono {pre' : κ → σ → Prop} {post' : α → κ → σ → Prop} (h : Does pre x post)
    (hpre : ∀ k s, pre' k s → pre k s) (hpost : ∀ a k s, post a k s → post' a k s) : Does pre' x post' :=
  ⟨h.honest, fun k => (h.triple k).mono (hpre k) fun y s => hpost y.1 y.2 s⟩

/-- What a run of the program shows: all was fair before if it is behind. -/
theorem Does.run (h : Does pre x post) {k : κ} {a : Amid σ ε} {y : (α × κ) × Amid σ ε} (hy : x k a = y)
    (hfair : y.2.fair = true) : a.fair = true ∧ (pre k a.state → post y.1.1 y.1.2 y.2.state) := by
  subst hy
  have ha := h.honest k a hfair
  exact ⟨ha, fun hp => h.triple k a ha hfair hp⟩

end

end Live
