import SourceAudit.Expr

/-! Operands taken apart. A property of all operands is proved along the nesting of calls, and each
question about a call is answered from its receiver and from the operands of its arguments. -/
namespace SourceAudit

/-- What holds of the plain operands, and of a call when it holds of the receiver and of the operands of
every argument, holds of all operands. -/
theorem Operand.induction {P : Operand → Prop}
    (literal : ∀ value interpolated, P (.literal value interpolated))
    (ident : ∀ name, P (.ident name)) (constant : P .constant)
    (call : ∀ callee receiver args, (∀ op ∈ receiver, P op) →
      (∀ e ∈ args, ∀ op ∈ e.operands, P op) → P (.call ⟨callee, receiver, args⟩))
    (op : Operand) : P op := by
  refine @Operand.rec P (fun c => P (.call c)) (fun e => ∀ op ∈ e.operands, P op)
    (fun receiver => ∀ op ∈ receiver, P op) (fun args => ∀ e ∈ args, ∀ op ∈ e.operands, P op)
    (fun ops => ∀ op ∈ ops, P op) literal ident constant (fun _ h => h) call (fun _ _ _ _ h => h)
    ?none ?some ?noArgs ?args ?noOperands ?operands op
  case none => simp
  case some =>
    rintro op hop _ ⟨⟩
    exact hop
  case noArgs => simp
  case args => exact fun e es he hes => List.forall_mem_cons.mpr ⟨he, hes⟩
  case noOperands => simp
  case operands => exact fun op ops hop hops => List.forall_mem_cons.mpr ⟨hop, hops⟩

/-! ### Dynamic values -/

theorem Expr.isDynamic_eq (e : Expr) : e.isDynamic = e.operands.any Operand.isDynamic := by
  obtain ⟨operands, joined, keyword, span⟩ := e
  rw [Expr.isDynamic]
  induction operands with
  | nil => rfl
  | cons op ops ih => rw [anyOperandDynamic, ih, List.any_cons]

theorem anyDynamic_eq (es : List Expr) : anyDynamic es = es.any Expr.isDynamic := by
  induction es with
  | nil => rfl
  | cons e es ih => rw [anyDynamic, ih, List.any_cons]

theorem receiverDynamic_eq (receiver : Option Operand) :
    receiverDynamic receiver = receiver.any Operand.isDynamic := by
  cases receiver <;> rfl

theorem Call.isDynamic_eq (c : Call) :
    c.isDynamic =
      if c.isBuilder || c.isConversion then
        c.receiver.any Operand.isDynamic || c.args.any Expr.isDynamic || formatCaptures c
      else true := by
  obtain ⟨callee, receiver, args⟩ := c
  rw [Call.isDynamic, receiverDynamic_eq, anyDynamic_eq]
  rfl

/-! ### Splices -/

theorem Expr.splices_eq (e : Expr) :
    e.splices = ((e.joined && e.isDynamic) || e.operands.any Operand.splices) := by
  obtain ⟨operands, joined, keyword, span⟩ := e
  rw [Expr.splices]
  congr 1
  induction operands with
  | nil => rfl
  | cons op ops ih => rw [anyOperandSplices, ih, List.any_cons]

theorem anySplices_eq (es : List Expr) : anySplices es = es.any Expr.splices := by
  induction es with
  | nil => rfl
  | cons e es ih => rw [anySplices, ih, List.any_cons]

theorem receiverSplices_eq (receiver : Option Operand) :
    receiverSplices receiver = receiver.any Operand.splices := by
  cases receiver <;> rfl

theorem Call.splices_eq (c : Call) :
    c.splices =
      if c.isBuilder then c.isDynamic
      else if c.isConversion then c.receiver.any Operand.splices || c.args.any Expr.splices
      else false := by
  obtain ⟨callee, receiver, args⟩ := c
  rw [Call.splices, receiverSplices_eq, anySplices_eq]
  rfl

theorem Expr.isDynamic_of_splices_of {e : Expr}
    (hops : ∀ op ∈ e.operands, op.splices = true → op.isDynamic = true) (h : e.splices = true) :
    e.isDynamic = true := by
  rw [Expr.splices_eq, Bool.or_eq_true, Bool.and_eq_true, List.any_eq_true] at h
  obtain ⟨-, h⟩ | ⟨op, hop, h⟩ := h
  · exact h
  · rw [Expr.isDynamic_eq, List.any_eq_true]
    exact ⟨op, hop, hops op hop h⟩

theorem Operand.isDynamic_of_splices {op : Operand} (h : op.splices = true) :
    op.isDynamic = true := by
  induction op using Operand.induction with
  | literal value interpolated => exact h
  | ident name => cases h
  | constant => cases h
  | call callee receiver args hreceiver hargs =>
    rw [Operand.splices, Call.splices_eq] at h
    rw [Operand.isDynamic]
    split at h
    · exact h
    · split at h
      next hconversion =>
        rw [Call.isDynamic_eq, hconversion, Bool.or_true, if_pos rfl]
        rw [Bool.or_eq_true, Option.any_eq_true, List.any_eq_true] at h
        obtain ⟨op, hop, h⟩ | ⟨e, he, h⟩ := h
        · have hdynamic : receiver.any Operand.isDynamic = true :=
            (Option.any_eq_true _ _).mpr ⟨op, hop, hreceiver op hop h⟩
          simp [hdynamic]
        · have hdynamic : args.any Expr.isDynamic = true :=
            List.any_eq_true.mpr ⟨e, he, Expr.isDynamic_of_splices_of (hargs e he) h⟩
          simp [hdynamic]
      next => cases h

theorem Expr.isDynamic_of_splices {e : Expr} (h : e.splices = true) : e.isDynamic = true :=
  Expr.isDynamic_of_splices_of (fun _ _ => Operand.isDynamic_of_splices) h

/-! ### Plain literals -/

theorem Expr.soleLiteral?_eq_some {e : Expr} {text : String} (h : e.soleLiteral? = some text) :
    ∃ op, e.operands = [op] ∧ e.joined = false ∧ op.soleLiteral? = some text := by
  obtain ⟨operands, joined, keyword, span⟩ := e
  match operands, joined with
  | [op], false => exact ⟨op, rfl, rfl, by rwa [Expr.soleLiteral?] at h⟩
  | [_], true | [], _ | _ :: _ :: _, _ => simp [Expr.soleLiteral?] at h

theorem Call.soleLiteral?_eq_some {c : Call} {text : String} (h : c.soleLiteral? = some text) :
    c.isConversion = true ∧
      ((∃ op, c.receiver = some op ∧ c.args = [] ∧ op.soleLiteral? = some text) ∨
        ∃ e, c.receiver = none ∧ c.args = [e] ∧ e.soleLiteral? = some text) := by
  obtain ⟨callee, receiver, args⟩ := c
  match receiver, args with
  | some op, [] =>
    rw [Call.soleLiteral?, Option.ite_none_right_eq_some] at h
    exact ⟨h.1, .inl ⟨op, rfl, rfl, h.2⟩⟩
  | none, [e] =>
    rw [Call.soleLiteral?, Option.ite_none_right_eq_some] at h
    exact ⟨h.1, .inr ⟨e, rfl, rfl, h.2⟩⟩
  | some _, _ :: _ | none, [] | none, _ :: _ :: _ => simp [Call.soleLiteral?] at h

theorem Call.formatText?_eq_some {c : Call} {text : String} (h : c.formatText? = some text) :
    (∃ interpolated, c.receiver = some (.literal text interpolated)) ∨
      ∃ e ∈ c.args, e.soleLiteral? = some text := by
  unfold Call.formatText? at h
  split at h
  next value interpolated hreceiver =>
    cases h
    exact .inl ⟨interpolated, hreceiver⟩
  next first more hargs _ => exact .inr ⟨first, by simp [hargs], h⟩
  next => cases h

end SourceAudit
