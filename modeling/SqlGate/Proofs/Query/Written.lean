import SqlGate.Proofs.Query.Normal
import SqlGate.Proofs.Query.Placeholders

namespace SqlGate

/-!
# How a draft is written

A statement with its values in place is told from the draft alone: the keyword
of its kind, then clause by clause the texts taken over and the values, each
value behind the field and the operator of its predicate, or behind the key that
it is set for.  The description here knows nothing of templates.

Whatever a draft compiles to is this description.  So a placeholder of the
statement can be followed to the column or the predicate that its value was
given for.
-/

namespace Slot

def chars (s : String) : List Slot :=
  s.toList.map character

@[simp] theorem chars_append (s t : String) : chars (s ++ t) = chars s ++ chars t := by
  simp [chars]

def listed {α : Type} (write : α -> List Slot) : List α -> List Slot
  | [] => []
  | a :: rest => write a ++ rest.flatMap fun b => chars ", " ++ write b

/-- A keyword and what stands behind it, unless there is nothing to say. -/
def clause {α : Type} (keyword : String) (absent : α -> Bool) (write : α -> List Slot) (a : α) :
    List Slot :=
  if absent a then [] else chars keyword ++ write a

end Slot

open Slot (chars)

namespace Template

@[simp] theorem slots_nil : slots [] = [] := rfl

@[simp] theorem slots_text (s : String) (rest : Template) :
    slots (.text s :: rest) = chars s ++ slots rest := rfl

@[simp] theorem slots_fragment (s : String) (rest : Template) :
    slots (.fragment s :: rest) = chars s ++ slots rest := rfl

@[simp] theorem slots_bound (v : Value) (rest : Template) :
    slots (.bound v :: rest) = .value v :: slots rest := rfl

@[simp] theorem slots_append (front behind : Template) :
    slots (front ++ behind) = slots front ++ slots behind := by
  induction front with
  | nil => rfl
  | cons piece rest ih => cases piece <;> simp [ih]

theorem slots_commas {ι : Type} (item : ι -> Template) (items : List ι) :
    slots (commas (items.map item)) = Slot.listed (fun i => slots (item i)) items := by
  induction items with
  | nil => rfl
  | cons first rest ih =>
      cases rest with
      | nil => simp [commas, separated, Slot.listed]
      | cons second others =>
          have behind : separated [.text ", "] (item second :: others.map item)
              = commas ((second :: others).map item) := rfl
          rw [commas, List.map_cons, List.map_cons, separated, slots_append, slots_append, behind,
            ih]
          · simp [Slot.listed]
          · exact List.cons_ne_nil _ _

theorem slots_values (vs : List Value) :
    slots (values vs) = Slot.listed (fun v => [.value v]) vs :=
  slots_commas _ vs

theorem slots_fragments (names : List String) :
    slots (Draft.fragments names) = Slot.listed chars names := by
  have listed := slots_commas (fun name => [.fragment name]) names
  rw [Draft.fragments, listed]
  simp only [slots_fragment, slots_nil, List.append_nil]

end Template

/-! ## Predicates -/

/-- What stands between the field of a predicate and its values. -/
def Operator.opening (op : Operator) : String :=
  " " ++ op.sql ++ if op.isUnary then "" else if op.isMembership then " (" else " "

namespace Operand

/-- An operand as its operator makes it and takes it. -/
def Fits (op : Operator) : Operand -> Prop
  | .none => op.isUnary = true
  | .scalar _ => op.isUnary = false ∧ op.isMembership = false
  | .list vs => op.isMembership = true ∧ vs ≠ []

/-- What is written of an operand behind its operator. -/
def slots : Operand -> List Slot
  | .none => []
  | .scalar v => [.value v]
  | .list vs => Slot.listed (fun v => [.value v]) vs ++ chars ")"

end Operand

/-- What joins a predicate to those before it. -/
def Connective.joint : Connective -> String
  | .and => " AND "
  | .or => " OR "

namespace Predicate

/-- A predicate with an operand that its operator takes. -/
def Fits (p : Predicate) : Prop :=
  (p.operand.normal p.operator).Fits p.operator

def written (p : Predicate) : List Slot :=
  chars p.field ++ (chars p.operator.opening ++ (p.operand.normal p.operator).slots)

/-- A predicate behind what joins it. -/
def link (text : Predicate -> String) (p : Predicate) : List Slot :=
  chars (text p) ++ p.written

/-- A chain behind its keyword. -/
def chainSlots (text : Predicate -> String) : List Predicate -> List Slot
  | [] => []
  | p :: rest => p.written ++ rest.flatMap (link text)

theorem slots_rightSide {p : Predicate} {right : Template} (binary : p.operator.isUnary = false)
    (succeeds : p.rightSide = .ok right) :
    chars (" " ++ p.operator.sql ++ " ") ++ right.slots
        = chars p.operator.opening ++ (p.operand.normal p.operator).slots
      ∧ p.Fits := by
  unfold rightSide at succeeds
  rw [Operator.opening, binary, if_neg Bool.false_ne_true, Fits]
  cases operand : p.operand with
  | none =>
      rw [operand] at succeeds
      cases succeeds
  | scalar v =>
      rw [operand] at succeeds
      rw [Operand.normal_scalar binary]
      cases member : p.operator.isMembership with
      | true =>
          rw [member] at succeeds
          cases succeeds
          exact ⟨by simp [Operand.slots, Slot.listed, chars], member, List.cons_ne_nil _ _⟩
      | false =>
          rw [member] at succeeds
          cases succeeds
          exact ⟨by simp [Operand.slots], binary, member⟩
  | list vs =>
      rw [operand] at succeeds
      rw [Operand.normal_list binary]
      cases member : p.operator.isMembership with
      | true =>
          rw [member] at succeeds
          cases vs with
          | nil => cases succeeds
          | cons v rest =>
              cases succeeds
              refine ⟨?_, member, List.cons_ne_nil _ _⟩
              simp [Operand.slots, Template.slots_values, chars]
      | false =>
          rw [member] at succeeds
          cases vs <;> cases succeeds

theorem slots_template {p : Predicate} {here : Template} (succeeds : p.template = .ok here) :
    here.slots = p.written ∧ p.Fits := by
  unfold template at succeeds
  by_cases unary : p.operator.isUnary = true
  · rw [if_pos unary] at succeeds
    cases succeeds
    rw [written, Fits, Operator.opening, Operand.normal_of_unary unary, if_pos unary]
    exact ⟨by simp [Operand.slots], unary⟩
  · rw [if_neg unary] at succeeds
    obtain ⟨right, side, rfl⟩ := exists_ok_of_map succeeds
    have found := slots_rightSide (Bool.eq_false_iff.mpr unary) side
    refine ⟨?_, found.2⟩
    rw [written, ← found.1]
    simp

section Chains

variable {joiner : Predicate -> Template} {text : Predicate -> String} {ps : List Predicate}
  {found : Template}

theorem slots_followers (joins : ∀ p, joiner p = [.text (text p)])
    (succeeds : followers joiner ps = .ok found) :
    found.slots = ps.flatMap (link text) ∧ ∀ p ∈ ps, p.Fits := by
  induction ps generalizing found with
  | nil =>
      cases succeeds
      exact ⟨rfl, fun p member => absurd member List.not_mem_nil⟩
  | cons p rest ih =>
      obtain ⟨here, writtenHere, succeeds⟩ := exists_ok_of_bind succeeds
      obtain ⟨others, followed, succeeds⟩ := exists_ok_of_bind succeeds
      cases succeeds
      have first := slots_template writtenHere
      have later := ih followed
      refine ⟨?_, List.forall_mem_cons.mpr ⟨first.2, later.2⟩⟩
      rw [joins, Template.slots_append, Template.slots_append, first.1, later.1, List.flatMap_cons,
        link]
      simp

theorem slots_chain {keyword : String} (joins : ∀ p, joiner p = [.text (text p)])
    (succeeds : chain keyword joiner ps = .ok found) :
    found.slots = Slot.clause keyword List.isEmpty (chainSlots text) ps ∧ ∀ p ∈ ps, p.Fits := by
  cases ps with
  | nil =>
      cases succeeds
      exact ⟨rfl, fun p member => absurd member List.not_mem_nil⟩
  | cons p rest =>
      obtain ⟨here, writtenHere, succeeds⟩ := exists_ok_of_bind succeeds
      obtain ⟨others, followed, succeeds⟩ := exists_ok_of_bind succeeds
      cases succeeds
      have first := slots_template writtenHere
      have later := slots_followers joins followed
      refine ⟨?_, List.forall_mem_cons.mpr ⟨first.2, later.2⟩⟩
      rw [Template.slots_append, Template.slots_text, first.1, later.1]
      simp [Slot.clause, chainSlots]

end Chains
end Predicate

/-! ## Clauses -/

def JoinKind.opening (kind : JoinKind) : String :=
  " " ++ kind.sql ++ " "

def Join.slots (join : Join) : List Slot :=
  chars join.kind.opening ++ (chars join.table ++
    (Slot.clause " AS " Option.isNone (fun given => given.elim [] chars) join.alias? ++
      (chars " ON " ++ chars join.on)))

def OrderBy.slots (order : OrderBy) : List Slot :=
  chars order.field ++ chars (" " ++ order.direction.sql)

namespace Draft

def assignmentSlots (entry : String × Value) : List Slot :=
  chars entry.1 ++ (chars " = " ++ [.value entry.2])

/-- What is selected, everything where nothing is said. -/
def shown (draft : Draft) : List String :=
  if draft.columns.isEmpty then ["*"] else draft.columns

def whereSlots (draft : Draft) : List Slot :=
  Slot.clause " WHERE " List.isEmpty (Predicate.chainSlots fun p => p.connective.joint) draft.wheres

def groupSlots (draft : Draft) : List Slot :=
  Slot.clause " GROUP BY " List.isEmpty (Slot.listed chars) draft.groupBy

def havingSlots (draft : Draft) : List Slot :=
  Slot.clause " HAVING " List.isEmpty (Predicate.chainSlots fun _ => " AND ") draft.having

def orderSlots (draft : Draft) : List Slot :=
  Slot.clause " ORDER BY " List.isEmpty (Slot.listed OrderBy.slots) draft.orderBy

def countSlots (keyword : String) (count : Option Nat) : List Slot :=
  Slot.clause keyword Option.isNone
    (fun given => given.elim [] fun n => chars (String.ofList (Text.ofNat n))) count

def pageSlots (draft : Draft) : List Slot :=
  countSlots " LIMIT " draft.limit ++ countSlots " OFFSET " draft.offset

/-- A selection from its order on. -/
def fromOrder (draft : Draft) : List Slot :=
  draft.orderSlots ++ draft.pageSlots

/-- A selection from its conditions on groups on. -/
def fromHaving (draft : Draft) : List Slot :=
  draft.havingSlots ++ draft.fromOrder

/-- A selection from its groups on. -/
def fromGroup (draft : Draft) : List Slot :=
  draft.groupSlots ++ draft.fromHaving

/-- A selection from its conditions on rows on. -/
def fromWhere (draft : Draft) : List Slot :=
  draft.whereSlots ++ draft.fromGroup

/-- A selection from its joins on. -/
def clauseSlots (draft : Draft) : List Slot :=
  draft.joins.flatMap Join.slots ++ draft.fromWhere

def keyword : StatementKind -> String
  | .select => "SELECT "
  | .insert => "INSERT INTO "
  | .update => "UPDATE "
  | .delete => "DELETE FROM "

/-- What is written of a draft behind the keyword of a kind. -/
def bodySlots (draft : Draft) : StatementKind -> List Slot
  | .select =>
      Slot.listed chars draft.shown ++ (chars " FROM " ++ (chars draft.table ++ draft.clauseSlots))
  | .insert =>
      chars draft.table ++ (chars " (" ++ (Slot.listed chars draft.insertValues.keys ++
        (chars ") VALUES (" ++ (Slot.listed (fun v => [.value v]) draft.insertValues.values ++
          chars ")"))))
  | .update =>
      chars draft.table ++ (chars " SET " ++
        (Slot.listed assignmentSlots draft.updateValues.entries ++ draft.whereSlots))
  | .delete => chars draft.table ++ draft.whereSlots

/-- What a kind writes is there: operands that their operators take, and a payload. -/
def Fits (draft : Draft) : StatementKind -> Prop
  | .select => (∀ p ∈ draft.wheres, p.Fits) ∧ ∀ p ∈ draft.having, p.Fits
  | .insert => draft.insertValues.entries ≠ []
  | .update => draft.updateValues.entries ≠ [] ∧ ∀ p ∈ draft.wheres, p.Fits
  | .delete => ∀ p ∈ draft.wheres, p.Fits

theorem slots_joinClause (join : Join) : (joinClause join).slots = join.slots := by
  unfold joinClause Join.slots
  cases join.alias? <;> simp [Slot.clause, JoinKind.opening]

theorem slots_joins (joins : List Join) :
    Template.slots (joins.flatMap joinClause) = joins.flatMap Join.slots := by
  induction joins with
  | nil => rfl
  | cons join rest ih =>
      rw [List.flatMap_cons, List.flatMap_cons, Template.slots_append, ih, slots_joinClause]

theorem slots_columnList (draft : Draft) :
    draft.columnList.slots = Slot.listed chars draft.shown := by
  unfold columnList shown
  split
  · simp [Slot.listed]
  · exact Template.slots_fragments draft.columns

theorem slots_groupClause (draft : Draft) : draft.groupClause.slots = draft.groupSlots := by
  unfold groupClause groupSlots Slot.clause
  split
  · rfl
  · rw [Template.slots_text, Template.slots_fragments]

theorem slots_orderClause (draft : Draft) : draft.orderClause.slots = draft.orderSlots := by
  have items := Template.slots_commas
    (fun o : OrderBy => [.fragment o.field, .text (" " ++ o.direction.sql)]) draft.orderBy
  unfold orderClause orderSlots Slot.clause
  split
  · rfl
  · rw [Template.slots_text, items]
    simp only [Template.slots_fragment, Template.slots_text, Template.slots_nil, List.append_nil]
    rfl

theorem slots_pageClause (draft : Draft) : draft.pageClause.slots = draft.pageSlots := by
  have count : ∀ (keyword : String) (given : Option Nat),
      (countClause keyword given).slots = countSlots keyword given := by
    intro keyword given
    cases given <;> simp [countClause, countSlots, Slot.clause]
  rw [pageClause, Template.slots_append, count, count, pageSlots]

/-! ## Statements -/

variable {draft : Draft} {found : Template}

theorem slots_whereClause (succeeds : Predicate.whereClause draft.wheres = .ok found) :
    found.slots = draft.whereSlots ∧ ∀ p ∈ draft.wheres, p.Fits := by
  have joined : ∀ p, Predicate.joiner p = [.text p.connective.joint] := by
    intro p
    unfold Predicate.joiner
    cases p.connective <;> rfl
  exact Predicate.slots_chain joined succeeds

theorem slots_havingClause (succeeds : Predicate.havingClause draft.having = .ok found) :
    found.slots = draft.havingSlots ∧ ∀ p ∈ draft.having, p.Fits :=
  Predicate.slots_chain (fun _ => rfl) succeeds

theorem slots_selectTemplate (succeeds : draft.selectTemplate = .ok found) :
    found.slots = chars (keyword .select) ++ draft.bodySlots .select ∧ draft.Fits .select := by
  obtain ⟨body, written, succeeds⟩ := exists_ok_of_bind succeeds
  obtain ⟨wheres, whereWritten, written⟩ := exists_ok_of_bind written
  obtain ⟨having, havingWritten, written⟩ := exists_ok_of_bind written
  cases succeeds
  cases written
  have rows := slots_whereClause whereWritten
  have groups := slots_havingClause havingWritten
  refine ⟨?_, rows.2, groups.2⟩
  simp only [Template.slots_append, Template.slots_text, Template.slots_fragment,
    Template.slots_nil, slots_columnList, slots_joins, slots_groupClause, slots_orderClause,
    slots_pageClause, rows.1, groups.1, List.append_assoc, List.nil_append]
  rfl

theorem slots_insertTemplate (succeeds : draft.insertTemplate = .ok found) :
    found.slots = chars (keyword .insert) ++ draft.bodySlots .insert ∧ draft.Fits .insert := by
  unfold insertTemplate at succeeds
  split at succeeds
  · cases succeeds
  · rename_i given
    cases succeeds
    refine ⟨?_, fun none => given (List.isEmpty_iff.mpr none)⟩
    simp only [Template.slots_append, Template.slots_text, Template.slots_fragment,
      Template.slots_nil, Template.slots_fragments, Template.slots_values, List.append_assoc,
      List.append_nil]
    rfl

theorem slots_updateTemplate (succeeds : draft.updateTemplate = .ok found) :
    found.slots = chars (keyword .update) ++ draft.bodySlots .update ∧ draft.Fits .update := by
  unfold updateTemplate at succeeds
  split at succeeds
  · cases succeeds
  · rename_i given
    obtain ⟨wheres, whereWritten, succeeds⟩ := exists_ok_of_bind succeeds
    cases succeeds
    have rows := slots_whereClause whereWritten
    have assignments := Template.slots_commas assignment draft.updateValues.entries
    refine ⟨?_, fun none => given (List.isEmpty_iff.mpr none), rows.2⟩
    simp only [Template.slots_append, Template.slots_text, Template.slots_fragment,
      Template.slots_nil, assignments, rows.1, List.append_assoc, List.nil_append]
    rfl

theorem slots_deleteTemplate (succeeds : draft.deleteTemplate = .ok found) :
    found.slots = chars (keyword .delete) ++ draft.bodySlots .delete ∧ draft.Fits .delete := by
  obtain ⟨wheres, whereWritten, succeeds⟩ := exists_ok_of_bind succeeds
  cases succeeds
  have rows := slots_whereClause whereWritten
  refine ⟨?_, rows.2⟩
  simp only [Template.slots_append, Template.slots_text, Template.slots_fragment,
    Template.slots_nil, rows.1, List.append_assoc, List.nil_append]
  rfl

/-- A draft compiles to what is written of it. -/
theorem slots_template (succeeds : draft.template = .ok found) :
    ∃ kind, draft.kind = some kind ∧ found.slots = chars (keyword kind) ++ draft.bodySlots kind
      ∧ draft.Fits kind := by
  unfold template at succeeds
  cases kind : draft.kind with
  | none =>
      rw [kind] at succeeds
      cases succeeds
  | some chosen =>
      rw [kind] at succeeds
      dsimp only at succeeds
      split at succeeds
      · cases succeeds
      · refine ⟨chosen, rfl, ?_⟩
        cases chosen with
        | select => exact slots_selectTemplate succeeds
        | insert => exact slots_insertTemplate succeeds
        | update => exact slots_updateTemplate succeeds
        | delete => exact slots_deleteTemplate succeeds

/-! ## Where placeholders stand -/

/-- A compiled draft has the placeholders of its values and no others.

Provided that no text taken over from the caller holds a dollar sign, reading
the statement from left to right finds the placeholders one, two and so on up to
the number of parameters.  The parameters are the values that the draft binds,
in order.  Each placeholder stands at the place of the value of its number: with
the parameters filled in, the text read is the text of the draft with its values
in place, every value behind the field and the operator of its predicate, behind
the key that it is set for, or as far into the row as its key is into the keys. -/
theorem placeholders_of_compile {draft : Draft} {statement : Statement}
    (compiled : draft.compile = .ok statement)
    (clean : ∀ s ∈ draft.taken, '$' ∉ s.toList) :
    Mark.numbers (Mark.read statement.sql.toList) = List.range' 1 statement.params.length
      ∧ statement.params = draft.bound
      ∧ ∃ kind template, draft.kind = some kind ∧ draft.template = .ok template
          ∧ (Mark.read statement.sql.toList).map (Mark.resolve statement.params)
            = template.slots.map some
          ∧ template.slots = chars (keyword kind) ++ draft.bodySlots kind := by
  obtain ⟨template, found, rfl⟩ := exists_ok_of_map compiled
  obtain ⟨kind, chosen, text, -⟩ := slots_template found
  have layout := layout_template found
  refine ⟨?_, layout.params_eq, kind, template, chosen, found, ?_, text⟩
  · rw [Template.read_statement layout clean]
    exact template.numbers_marks 1
  · exact Template.resolve_statement layout clean

/-- A selection with a value carried in vain, a list, and a condition on groups. -/
def lateFlights : Draft :=
  { kind := some .select
    table := "flights f"
    columns := ["f.gate", "COUNT(*)"]
    wheres :=
      [⟨"f.left", .isNull, .scalar (.int 7), .or⟩,
        ⟨"f.code", .notIn, .list [.text "$9", .null], .and⟩,
        ⟨"f.delay", .gt, .scalar (.int 15), .or⟩]
    groupBy := ["f.gate"]
    having := [⟨"COUNT(*)", .gte, .scalar (.int 2), .or⟩]
    limit := some 10 }

def lateFlightsStatement : Statement :=
  ⟨"SELECT f.gate, COUNT(*) FROM flights f WHERE f.left IS NULL AND f.code NOT IN ($1, $2) "
      ++ "OR f.delay > $3 GROUP BY f.gate HAVING COUNT(*) >= $4 LIMIT 10",
    [.text "$9", .null, .int 15, .int 2]⟩

/-- An update that finds its row by the gate it takes away. -/
def newGate : Draft :=
  { kind := some .update
    table := "flights"
    updateValues := Ordered.ofList [("gate", .text "B7"), ("delay", .null)]
    wheres := [⟨"gate", .eq, .scalar (.text "A1"), .and⟩] }

def newGateStatement : Statement :=
  ⟨"UPDATE flights SET gate = $1, delay = $2 WHERE gate = $3", [.text "B7", .null, .text "A1"]⟩

/-- Neither a value that reads like a placeholder nor one beside a null check disturbs the
numbers, and of two values for one column each stands where it was given. -/
theorem placeholders_of_lateFlights :
    (lateFlights.compile = .ok lateFlightsStatement
      ∧ (∀ s ∈ lateFlights.taken, '$' ∉ s.toList)
      ∧ Mark.numbers (Mark.read lateFlightsStatement.sql.toList) = [1, 2, 3, 4]
      ∧ lateFlightsStatement.params = lateFlights.bound)
    ∧ newGate.compile = .ok newGateStatement
      ∧ (∀ s ∈ newGate.taken, '$' ∉ s.toList)
      ∧ Mark.numbers (Mark.read newGateStatement.sql.toList) = [1, 2, 3]
      ∧ newGateStatement.params = newGate.bound
      ∧ (Mark.read newGateStatement.sql.toList).map (Mark.resolve newGateStatement.params)
        = (chars "UPDATE flights SET gate = " ++ [Slot.value (.text "B7")]
          ++ chars ", delay = " ++ [Slot.value .null]
          ++ chars " WHERE gate = " ++ [Slot.value (.text "A1")]).map some := by
  have compiled : lateFlights.compile = .ok lateFlightsStatement :=
    eq_ok_of_toOption (by decide +kernel)
  have clean : ∀ s ∈ lateFlights.taken, '$' ∉ s.toList := by decide +kernel
  have placed := placeholders_of_compile compiled clean
  have alsoCompiled : newGate.compile = .ok newGateStatement :=
    eq_ok_of_toOption (by decide +kernel)
  have alsoClean : ∀ s ∈ newGate.taken, '$' ∉ s.toList := by decide +kernel
  obtain ⟨numbers, params, kind, template, chosen, -, filled, text⟩ :=
    placeholders_of_compile alsoCompiled alsoClean
  cases chosen
  refine ⟨⟨compiled, clean, placed.1, placed.2.1⟩, alsoCompiled, alsoClean, numbers, params, ?_⟩
  rw [filled, text]
  decide +kernel

end Draft
end SqlGate
