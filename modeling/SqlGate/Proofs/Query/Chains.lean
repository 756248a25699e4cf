import SqlGate.Proofs.Query.Precedence

namespace SqlGate

/-!
# What a chain of predicates means in a statement

A builder keeps predicates in a flat chain, each with the connective by which it
was added.  Compiling writes the chain without parentheses, so a database reads
the text by precedence.  Here the text is found in the finished statement, its
atoms being the predicates at their places with their placeholders, and its one
reading is compared with the chain read from left to right.
-/

namespace Predicate

/-- The text of a predicate whose first placeholder has the number `next`. -/
def text (next : Nat) (p : Predicate) : List Char :=
  match p.template with
  | .ok here => Template.write next here
  | .error _ => []

/-- The texts of predicates in order, each counting on where the one before ends. -/
def texts (next : Nat) : List Predicate -> List (List Char)
  | [] => []
  | p :: rest => p.text next :: texts (next + p.values.length) rest

/-- The text of the predicate at a place of a chain. -/
def wordAt (next : Nat) (ps : List Predicate) (place : Nat) : List Char :=
  (texts next ps).getD place []

/-- The places behind the first one, each with the connective of its predicate. -/
def links (ps : List Predicate) : List (ChainLink Nat) :=
  (ps.tail.zipIdx 1).map fun entry => (entry.1.connective, entry.2)

/-- The truth of a chain in which each predicate after the first is joined by its own connective
to everything before it; each place has a truth of its own. -/
def leftToRight (truth : Nat -> Truth) (ps : List Predicate) : Truth :=
  ChainLink.leftToRight truth 0 (links ps)

/-- Among the predicates after the first, none joined with AND comes after one joined with OR. -/
def AndsFirst (ps : List Predicate) : Prop :=
  ps.tail.Pairwise fun earlier later =>
    ¬(earlier.connective = .or ∧ later.connective = .and)

instance (ps : List Predicate) : Decidable (AndsFirst ps) :=
  inferInstanceAs (Decidable (List.Pairwise _ _))

/-- The condition that a chain is by precedence, over the places of its predicates. -/
def condition (ps : List Predicate) : Condition Nat :=
  (ChainReader.readAll 0 (links ps)).condition

theorem places_links {ps : List Predicate} (nonempty : ps ≠ []) :
    0 :: (links ps).map Prod.snd = List.range ps.length := by
  cases ps with
  | nil => exact absurd rfl nonempty
  | cons p rest =>
      rw [links, List.map_map, List.tail_cons, List.length_cons, List.range_eq_range',
        List.range'_succ]
      exact congrArg (0 :: ·) (List.zipIdx_map_snd 1 rest)

theorem andsFirst_links (ps : List Predicate) : ChainLink.AndsFirst (links ps) ↔ AndsFirst ps := by
  -- The connectives do not depend on the places.
  conv_rhs => rw [AndsFirst, ← List.zipIdx_map_fst 1 ps.tail]
  rw [ChainLink.AndsFirst, links, List.pairwise_map, List.pairwise_map]

/-! ## Where the chain stands in a statement -/

theorem joiner_eq (p : Predicate) : p.joiner = [.text p.connective.joint] := by
  unfold joiner Connective.joint
  cases p.connective <;> rfl

theorem write_of_template {p : Predicate} {here : Template} (succeeds : p.template = .ok here)
    (next : Nat) : Template.write next here = p.text next := by
  rw [text, succeeds]

/-- The followers of a chain are written as its links, wherever in the chain they begin. -/
theorem write_followers {ps : List Predicate} {found : Template}
    (succeeds : followers joiner ps = .ok found) (next place : Nat) {word : Nat -> List Char}
    (words : ∀ k, word (place + k) = wordAt next ps k) :
    Template.write next found
      = (ps.zipIdx place).flatMap fun entry =>
          entry.1.connective.joint.toList ++ word entry.2 := by
  induction ps generalizing found next place with
  | nil => cases succeeds; rfl
  | cons p rest ih =>
      obtain ⟨here, template, succeeds⟩ := exists_ok_of_bind succeeds
      obtain ⟨others, followed, succeeds⟩ := exists_ok_of_bind succeeds
      cases succeeds
      have counted : next + here.params.length = next + p.values.length := by
        rw [(layout_template template).params_eq]
      have behind := ih followed (next + p.values.length) (place + 1) fun k => by
        rw [show place + 1 + k = place + (k + 1) by omega, words]
        rfl
      have first : word place = p.text next := words 0
      rw [joiner_eq, List.zipIdx_cons, List.flatMap_cons, first, ← behind,
        ← write_of_template template, ← counted, List.append_assoc, List.singleton_append,
        Template.write, Template.write_append, List.append_assoc]

theorem write_whereClause {ps : List Predicate} {found : Template} (nonempty : ps ≠ [])
    (succeeds : whereClause ps = .ok found) (next : Nat) :
    Template.write next found
      = " WHERE ".toList ++ ChainLink.written (wordAt next ps) 0 (links ps) := by
  cases ps with
  | nil => exact absurd rfl nonempty
  | cons p rest =>
      obtain ⟨here, template, succeeds⟩ := exists_ok_of_bind succeeds
      obtain ⟨others, followed, succeeds⟩ := exists_ok_of_bind succeeds
      cases succeeds
      have counted : next + here.params.length = next + p.values.length := by
        rw [(layout_template template).params_eq]
      have words : ∀ k, wordAt next (p :: rest) (1 + k)
          = wordAt (next + p.values.length) rest k := by
        intro k
        rw [Nat.add_comm]
        rfl
      have behind := write_followers followed (next + p.values.length) 1 words
      have first : wordAt next (p :: rest) 0 = p.text next := rfl
      rw [ChainLink.written, first, links, List.flatMap_map, List.tail_cons, ← behind,
        ← write_of_template template, ← counted, List.cons_append, Template.write,
        Template.write_append]

end Predicate

namespace Draft

/-- What stands in front of the conditions on rows. -/
def beforeConditions (draft : Draft) : Template :=
  match draft.kind with
  | some .select => [.text "SELECT "] ++ draft.columnList
      ++ [.text " FROM ", .fragment draft.table] ++ draft.joins.flatMap joinClause
  | some .update => [.text "UPDATE ", .fragment draft.table, .text " SET "]
      ++ Template.commas (draft.updateValues.entries.map assignment)
  | some .delete => [.text "DELETE FROM ", .fragment draft.table]
  | _ => []

/-- The keyword of the first clause behind the conditions on rows. -/
def nextKeyword? (draft : Draft) : Option String :=
  if draft.kind ≠ some .select then none
  else if draft.groupBy ≠ [] then some " GROUP BY "
  else if draft.having ≠ [] then some " HAVING "
  else if draft.orderBy ≠ [] then some " ORDER BY "
  else if draft.limit.isSome then some " LIMIT "
  else if draft.offset.isSome then some " OFFSET "
  else none

/-- Whether the conditions on rows are over in front of a text: it begins with the next keyword,
or there is nothing more. -/
def EndsConditions (draft : Draft) (behind : List Char) : Prop :=
  match draft.nextKeyword? with
  | some keyword => keyword.toList <+: behind
  | none => behind = []

theorem prefix_write (next : Nat) (keyword more : String) (rest : Template) :
    keyword.toList <+: Template.write next (.text (keyword ++ more) :: rest) := by
  rw [Template.write, String.toList_append, List.append_assoc]
  exact List.prefix_append _ _

theorem endsConditions_of_not_select {draft : Draft} (other : draft.kind ≠ some .select) :
    draft.EndsConditions [] := by
  rw [EndsConditions, nextKeyword?, if_pos other]

/-- The clauses behind the conditions on rows begin with the keyword of the first one that is
there. -/
theorem endsConditions_write {draft : Draft} {having : Template}
    (select : draft.kind = some .select)
    (compiled : Predicate.havingClause draft.having = .ok having) (next : Nat) :
    draft.EndsConditions (Template.write next
      (draft.groupClause ++ having ++ draft.orderClause ++ draft.pageClause)) := by
  rw [EndsConditions, nextKeyword?, if_neg (not_not.mpr select), groupClause]
  cases draft.groupBy with
  | cons field rest => exact prefix_write next " GROUP BY " "" _
  | nil =>
      cases filtered : draft.having with
      | cons p rest =>
          rw [filtered] at compiled
          obtain ⟨here, -, compiled⟩ := exists_ok_of_bind compiled
          obtain ⟨others, -, compiled⟩ := exists_ok_of_bind compiled
          cases compiled
          exact prefix_write next " HAVING " "" _
      | nil =>
          rw [filtered] at compiled
          cases compiled
          rw [orderClause]
          cases draft.orderBy with
          | cons order rest => exact prefix_write next " ORDER BY " "" _
          | nil =>
              rw [pageClause]
              cases draft.limit with
              | some n => exact prefix_write next " LIMIT " _ _
              | none =>
                  cases draft.offset with
                  | some n => exact prefix_write next " OFFSET " _ _
                  | none => rfl

/-- Every statement but an insertion has the conditions on rows behind its first part, and behind
them the next clause. -/
theorem exists_whereClause {draft : Draft} {found : Template}
    (succeeds : draft.template = .ok found) (reads : draft.kind ≠ some .insert) :
    ∃ clause behind, Predicate.whereClause draft.wheres = .ok clause
      ∧ found = draft.beforeConditions ++ clause ++ behind
      ∧ ∀ next, draft.EndsConditions (Template.write next behind) := by
  unfold template at succeeds
  unfold beforeConditions
  cases chosen : draft.kind with
  | none => rw [chosen] at succeeds; cases succeeds
  | some kind =>
      rw [chosen] at succeeds
      dsimp only at succeeds
      split at succeeds
      · cases succeeds
      · cases kind with
        | select =>
            obtain ⟨body, compiled, succeeds⟩ := exists_ok_of_bind succeeds
            obtain ⟨clause, wheres, compiled⟩ := exists_ok_of_bind compiled
            obtain ⟨having, filtered, compiled⟩ := exists_ok_of_bind compiled
            cases compiled
            cases succeeds
            exact ⟨clause, draft.groupClause ++ having ++ draft.orderClause ++ draft.pageClause,
              wheres, by simp, endsConditions_write chosen filtered⟩
        | insert => exact absurd chosen reads
        | update =>
            change draft.updateTemplate = .ok found at succeeds
            unfold updateTemplate at succeeds
            split at succeeds
            · cases succeeds
            · obtain ⟨clause, wheres, succeeds⟩ := exists_ok_of_bind succeeds
              cases succeeds
              have ends : draft.EndsConditions [] :=
                endsConditions_of_not_select (by rw [chosen]; decide)
              exact ⟨clause, [], wheres, by simp, fun _ => ends⟩
        | delete =>
            obtain ⟨clause, wheres, succeeds⟩ := exists_ok_of_bind succeeds
            cases succeeds
            have ends : draft.EndsConditions [] :=
              endsConditions_of_not_select (by rw [chosen]; decide)
            exact ⟨clause, [], wheres, by simp, fun _ => ends⟩

/-- The conditions of a compiled draft, up to the keyword of the next clause or the end of the
statement, can be read by precedence in one way, in which every predicate is an atom at its place.
The reading is worth as much as the chain read from left to right, whatever the predicates are
worth, if and only if no AND comes after an OR; to find out it is enough to try predicates that are
true or false. -/
theorem conditions_leftToRight_iff {draft : Draft} {statement : Statement}
    (compiled : draft.compile = .ok statement) (reads : draft.kind ≠ some .insert)
    (nonempty : draft.wheres ≠ []) :
    ∃ (text behind : List Char) (c : Condition Nat),
      statement.sql.toList
          = Template.write 1 draft.beforeConditions ++ " WHERE ".toList ++ text ++ behind
        ∧ draft.EndsConditions behind
        ∧ (∀ d : Condition Nat,
            (Condition.Reads
                (Predicate.wordAt (1 + draft.beforeConditions.params.length) draft.wheres) text d
              ∧ d.atoms = List.range draft.wheres.length) ↔ d = c)
        ∧ ((∀ truth : Nat -> Truth, c.value truth = Predicate.leftToRight truth draft.wheres)
            ↔ Predicate.AndsFirst draft.wheres)
        ∧ ((∀ truth : Nat -> Bool, c.value (fun place => some (truth place))
              = Predicate.leftToRight (fun place => some (truth place)) draft.wheres)
            ↔ Predicate.AndsFirst draft.wheres) := by
  obtain ⟨found, template, rfl⟩ := exists_ok_of_map compiled
  obtain ⟨clause, behind, wheres, rfl, ends⟩ := exists_whereClause template reads
  let next : Nat := 1 + draft.beforeConditions.params.length
  have places := Predicate.places_links nonempty
  have distinct : (0 :: (Predicate.links draft.wheres).map Prod.snd).Nodup := by
    rw [places]
    exact List.nodup_range
  have values := ChainReader.forall_value_eq_iff distinct
  rw [Predicate.andsFirst_links] at values
  refine ⟨ChainLink.written (Predicate.wordAt next draft.wheres) 0 (Predicate.links draft.wheres),
    Template.write (next + clause.params.length) behind, Predicate.condition draft.wheres, ?_,
    ends _, ?_, values⟩
  · rw [Template.statement, String.toList_ofList, List.append_assoc draft.beforeConditions,
      Template.write_append, Template.write_append,
      Predicate.write_whereClause nonempty wheres next]
    simp [next]
  · intro d
    rw [← places]
    exact ChainReader.reads_written_iff _ 0 _ d

/-- A deletion whose last condition was added with AND behind an OR. -/
def staleFlights : Draft :=
  { kind := some .delete
    table := "flights"
    wheres :=
      [⟨"gate", .eq, .scalar (.text "A1"), .or⟩, ⟨"seats", .isIn, .list [.int 0, .int 1], .or⟩,
        ⟨"departed", .isNotNull, .none, .and⟩] }

def staleFlightsStatement : Statement :=
  ⟨"DELETE FROM flights WHERE gate = $1 OR seats IN ($2, $3) AND departed IS NOT NULL",
    [.text "A1", .int 0, .int 1]⟩

/-- A selection whose conditions hold together until one is added with OR, grouped and sorted. -/
def openGates : Draft :=
  { kind := some .select
    table := "flights"
    columns := ["gate"]
    wheres :=
      [⟨"gate", .notEq, .scalar (.text "A1"), .and⟩, ⟨"seats", .gt, .scalar (.int 0), .and⟩,
        ⟨"departed", .isNull, .none, .or⟩]
    groupBy := ["gate"]
    orderBy := [⟨"gate", .desc⟩] }

def openGatesStatement : Statement :=
  ⟨"SELECT gate FROM flights WHERE gate != $1 AND seats > $2 OR departed IS NULL"
      ++ " GROUP BY gate ORDER BY gate DESC",
    [.text "A1", .int 0]⟩

/-- The flights of a gate are deleted whether they departed or not, which is not what the chain
means from left to right; the gates that are selected are those that the chain means, and the
conditions end where the groups begin. -/
theorem conditions_of_staleFlights :
    (staleFlights.compile = .ok staleFlightsStatement
      ∧ ¬Predicate.AndsFirst staleFlights.wheres
      ∧ ∃ (text : List Char) (c : Condition Nat),
        staleFlightsStatement.sql.toList
            = Template.write 1 staleFlights.beforeConditions ++ " WHERE ".toList ++ text
          ∧ Condition.Reads (Predicate.wordAt 1 staleFlights.wheres) text c
          ∧ ¬∀ truth : Nat -> Bool, c.value (fun place => some (truth place))
              = Predicate.leftToRight (fun place => some (truth place)) staleFlights.wheres)
    ∧ openGates.compile = .ok openGatesStatement
      ∧ Predicate.AndsFirst openGates.wheres
      ∧ ∃ (text behind : List Char) (c : Condition Nat),
        openGatesStatement.sql.toList
            = Template.write 1 openGates.beforeConditions ++ " WHERE ".toList ++ text ++ behind
          ∧ " GROUP BY ".toList <+: behind
          ∧ Condition.Reads (Predicate.wordAt 1 openGates.wheres) text c
          ∧ ∀ truth : Nat -> Bool, c.value (fun place => some (truth place))
              = Predicate.leftToRight (fun place => some (truth place)) openGates.wheres := by
  constructor
  · have compiled : staleFlights.compile = .ok staleFlightsStatement :=
      eq_ok_of_toOption (by decide +kernel)
    have mixed : ¬Predicate.AndsFirst staleFlights.wheres := by decide
    rcases conditions_leftToRight_iff compiled (by decide) (by decide)
      with ⟨text, behind, c, placed, ends, read, -, same⟩
    have nothing : behind = [] := ends
    rw [nothing, List.append_nil] at placed
    exact ⟨compiled, mixed, text, c, placed, ((read c).mpr rfl).1,
      fun always => mixed (same.mp always)⟩
  · have compiled : openGates.compile = .ok openGatesStatement :=
      eq_ok_of_toOption (by decide +kernel)
    have andsFirst : Predicate.AndsFirst openGates.wheres := by decide
    rcases conditions_leftToRight_iff compiled (by decide) (by decide)
      with ⟨text, behind, c, placed, ends, read, -, same⟩
    exact ⟨compiled, andsFirst, text, behind, c, placed, ends, ((read c).mpr rfl).1,
      same.mpr andsFirst⟩

end Draft
end SqlGate
