import Scaffold.Template.Program.Cursor

/-!
# What readers take

A reader that succeeds gives a result and leaves the tokens behind it.  Readers in sequence take
what each of them takes, whatever the lines of the tokens are.
-/

namespace Scaffold.Template

variable {α β : Type} {before between after : List Token}

/-- The cursor stands before these tokens, and they do not break off. -/
structure Cursor.At (c : Cursor) (tokens : List Token) : Prop where
  sound : c.fault? = none
  tokens : c.tokens.map (·.2) = tokens

theorem Cursor.settle_of_sound {c : Cursor} (h : c.fault? = none) : c.settle = .ok c := by
  unfold Cursor.settle
  rw [h]
  cases c.tokens <;> rfl

namespace Reader

/-- Standing before the first tokens, the reader gives the result and leaves the last ones. -/
def Takes (r : Reader α) (before : List Token) (a : α) (after : List Token) : Prop :=
  ∀ c : Cursor, c.At before → ∃ c', r c = .ok (a, c') ∧ c'.At after

theorem takes_pure (a : α) : Takes (pure a) before a before := by
  intro c hc
  exact ⟨c, rfl, hc⟩

theorem Takes.bind {r : Reader α} {f : α → Reader β} {a : α} {b : β}
    (h : Takes r before a between) (hf : Takes (f a) between b after) :
    Takes (r >>= f) before b after := by
  intro c hc
  obtain ⟨c₁, hr, hc₁⟩ := h c hc
  obtain ⟨c₂, hr₂, hc₂⟩ := hf c₁ hc₁
  refine ⟨c₂, ?_, hc₂⟩
  have hbind : (r >>= f) c = r c >>= fun (a, c) => f a c := rfl
  rw [hbind, hr]
  exact hr₂

/-- Nothing that is taken depends on the cursor itself. -/
theorem takes_get {f : Cursor → Reader α} {a : α}
    (h : ∀ c : Cursor, c.At before → Takes (f c) before a after) :
    Takes (get >>= f) before a after := by
  intro c hc
  exact h c hc c hc

theorem takes_line {f : Nat → Reader α} {a : α} (h : ∀ n, Takes (f n) before a after) :
    Takes (line >>= f) before a after := by
  intro c hc
  exact h c.line c hc

theorem takes_peek : Takes peek before before.head? before := by
  intro c hc
  refine ⟨c, ?_, hc⟩
  have hhead : c.tokens.head?.map (·.2) = before.head? := by
    rw [← hc.tokens, List.head?_map]
  rw [← hhead]
  rfl

theorem takes_advance (token : Token) : Takes advance (token :: after) () after := by
  intro c hc
  refine ⟨{ c with last := c.line, tokens := c.tokens.tail }, ?_, hc.sound, ?_⟩
  · have hsettle : Cursor.advance c = .ok { c with last := c.line, tokens := c.tokens.tail } :=
      Cursor.settle_of_sound hc.sound
    have hadvance : advance c = (c.advance >>= fun c => .ok ((), c)) := rfl
    rw [hadvance, hsettle]
    rfl
  · rw [List.map_tail, hc.tokens, List.tail_cons]

theorem takes_isAt (p : Pattern) (token : Token) :
    Takes (isAt p) (token :: after) (p.holds token) (token :: after) :=
  takes_peek.bind (takes_pure _)

theorem takes_skip_of_not {p : Pattern} {token : Token} (h : p.holds token = false) :
    Takes (skip p) (token :: after) false (token :: after) := by
  refine (takes_isAt p token).bind ?_
  rw [h]
  exact takes_pure false

theorem takes_skip {p : Pattern} {token : Token} (h : p.holds token = true) :
    Takes (skip p) (token :: after) true after := by
  refine (takes_isAt p token).bind ?_
  rw [h]
  exact (takes_advance token).bind (takes_pure true)

theorem takes_expect {p : Pattern} {token : Token} (h : p.holds token = true) :
    Takes (expect p) (token :: after) () after := by
  refine (takes_isAt p token).bind ?_
  rw [h]
  exact takes_advance token

/-- A repetition whose first step has nothing to add. -/
theorem takes_repeatWhile {step : α → Reader (Option α)} {a : α}
    (h : Takes (step a) before none before) : Takes (repeatWhile step a) before a before :=
  takes_get fun _ _ => h.bind (takes_pure a)

end Reader

end Scaffold.Template
