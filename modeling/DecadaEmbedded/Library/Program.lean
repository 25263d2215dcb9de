import Mathlib.Logic.Basic

/-!
# Programs over operations that answer

A program performs operations and goes on as their answers say. `wp rule program post history` is
its weakest precondition: a rule tells what an operation needs of the history of its thread, what
may be assumed once it is performed, and the history that it leaves.
-/

namespace DecadaEmbedded.Library

inductive Program (Op α : Type) where
  | done (a : α)
  | perform (op : Op) (next : Bool → Program Op α)

namespace Program
variable {Op α β : Type}

def bind : Program Op α → (α → Program Op β) → Program Op β
  | .done a, next => next a
  | .perform op rest, next => .perform op fun answer => (rest answer).bind next

instance : Monad (Program Op) where
  pure := .done
  bind := bind

def ask (op : Op) : Program Op Bool := .perform op .done

def tell (op : Op) : Program Op Unit := .perform op fun _ => .done ()

end Program

structure Rule (Op History : Type) where
  assumed : History → Op → Prop
  allowed : History → Op → Prop
  after : History → Op → Bool → History

variable {Op History α β : Type}

def wp (rule : Rule Op History) : Program Op α → (α → History → Prop) → History → Prop
  | .done a, post, history => post a history
  | .perform op next, post, history =>
      rule.allowed history op ∧ (rule.assumed history op →
        ∀ answer, wp rule (next answer) post (rule.after history op answer))

variable {rule : Rule Op History} {history : History}

@[simp] theorem wp_pure (a : α) (post : α → History → Prop) :
    wp rule (pure a) post history ↔ post a history := Iff.rfl

@[simp] theorem wp_ask (op : Op) (post : Bool → History → Prop) :
    wp rule (.ask op) post history ↔ rule.allowed history op ∧ (rule.assumed history op →
      ∀ answer, post answer (rule.after history op answer)) := Iff.rfl

@[simp] theorem wp_tell (op : Op) (post : Unit → History → Prop) :
    wp rule (.tell op) post history ↔ rule.allowed history op ∧ (rule.assumed history op →
      ∀ answer, post () (rule.after history op answer)) := Iff.rfl

theorem wp_mono {program : Program Op α} {post post' : α → History → Prop}
    (weaker : ∀ a history, post a history → post' a history) (holds : wp rule program post history) :
    wp rule program post' history := by
  induction program generalizing history with
  | done a => exact weaker a history holds
  | perform op next ih =>
      obtain ⟨allowed, later⟩ := holds
      exact ⟨allowed, fun assumed answer => ih answer (later assumed answer)⟩

@[simp] theorem wp_bind (program : Program Op α) (next : α → Program Op β) (post : β → History → Prop) :
    wp rule (program >>= next) post history ↔
      wp rule program (fun a history => wp rule (next a) post history) history := by
  induction program generalizing history with
  | done a => exact Iff.rfl
  | perform op rest ih =>
      refine and_congr_right fun _ => forall_congr' fun _ => forall_congr' fun answer => ?_
      exact ih answer

end DecadaEmbedded.Library
