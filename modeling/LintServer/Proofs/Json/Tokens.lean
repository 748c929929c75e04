import LintServer.Json.Parse

set_option autoImplicit false

namespace LintServer.Json

def isScalar : Json → Bool
  | array _ | object _ => false
  | _ => true

theorem nestedInduction {motive : Json → Prop} (scalar : ∀ json, json.isScalar → motive json)
    (array : ∀ items, (∀ item ∈ items, motive item) → motive (array items))
    (object : ∀ members, (∀ member ∈ members, motive member.2) → motive (object members))
    (json : Json) : motive json := by
  refine @Json.rec motive (fun items => ∀ item ∈ items, motive item)
    (fun members => ∀ member ∈ members, motive member.2) (fun member => motive member.2)
    (scalar _ rfl) (fun _ => scalar _ rfl) (fun _ => scalar _ rfl) (fun _ => scalar _ rfl)
    array object ?_ ?_ ?_ ?_ ?_ json
  · simp
  · intro item rest first more
    exact List.forall_mem_cons.mpr ⟨first, more⟩
  · simp
  · intro member rest first more
    exact List.forall_mem_cons.mpr ⟨first, more⟩
  · intro name value first
    exact first

mutual

def tokens : Json → List Token
  | array items => .openBracket :: (itemTokens items ++ [.closeBracket])
  | object members => .openBrace :: (memberTokens members ++ [.closeBrace])
  | null => [.scalar null]
  | bool b => [.scalar (bool b)]
  | number literal => [.scalar (number literal)]
  | string value => [.scalar (string value)]

def itemTokens : List Json → List Token
  | [] => []
  | [item] => tokens item
  | item :: rest => tokens item ++ .comma :: itemTokens rest

def memberTokens : List (Text × Json) → List Token
  | [] => []
  | [(name, value)] => .scalar (string name) :: .colon :: tokens value
  | (name, value) :: rest =>
    .scalar (string name) :: .colon :: (tokens value ++ .comma :: memberTokens rest)

end

theorem tokens_scalar {json : Json} (flat : json.isScalar) : tokens json = [.scalar json] := by
  cases json <;> first | rfl | contradiction

mutual

def depth : Json → Nat
  | array items => depthItems items + 1
  | object members => depthMembers members + 1
  | _ => 0

def depthItems : List Json → Nat
  | [] => 0
  | item :: rest => max (depth item) (depthItems rest)

def depthMembers : List (Text × Json) → Nat
  | [] => 0
  | (_, value) :: rest => max (depth value) (depthMembers rest)

end

def StartsValue (stack : List Frame) (reading : Reading) : Prop :=
  reading = .value ∨ reading = .firstItem ∧ ∃ rest, stack = .items [] :: rest

-- The machine reads the tokens of a value and then stands after it, whatever follows.
def RunsThrough (json : Json) : Prop :=
  ∀ stack reading, StartsValue stack reading → stack.length + depth json ≤ maxDepth →
    ∀ more, run stack reading (tokens json ++ more) = run stack (.after json) more

theorem step_startsValue {stack : List Frame} {reading : Reading}
    (starts : StartsValue stack reading) {token : Token} (other : token ≠ .closeBracket) :
    step stack reading token = beginValue stack token := by
  rcases starts with rfl | ⟨rfl, rest, rfl⟩
  · rfl
  · cases token <;> first | rfl | contradiction

theorem run_cons {stack next : List Frame} {reading later : Reading} {token : Token}
    (stepped : step stack reading token = some (next, later)) (tokens : List Token) :
    run stack reading (token :: tokens) = run next later tokens := by
  simp [run, stepped]

theorem run_items {items : List Json} (values : ∀ item ∈ items, RunsThrough item)
    (filled : items ≠ []) (stack : List Frame) (fits : stack.length + 1 + depthItems items ≤ maxDepth)
    (done : List Json) {reading : Reading} (starts : StartsValue (.items done :: stack) reading)
    (more : List Token) :
    run (.items done :: stack) reading (itemTokens items ++ .closeBracket :: more) =
      run stack (.after (.array (done.reverse ++ items))) more := by
  induction items generalizing done reading with
  | nil => contradiction
  | cons item rest ih =>
    rw [depthItems] at fits
    have first := values item (by simp) (.items done :: stack) reading starts
      (by rw [List.length_cons]; omega)
    cases rest with
    | nil =>
      rw [itemTokens, first]
      exact run_cons (by simp [step, endValue]) more
    | cons next rest =>
      have later := ih (fun item member => values item (by simp [member])) (by simp) (by omega)
        (item :: done) (.inl rfl)
      have comma : step (.items done :: stack) (.after item) .comma =
          some (.items (item :: done) :: stack, .value) := rfl
      rw [itemTokens, List.append_assoc, first, List.cons_append, run_cons comma, later]
      · simp
      · simp

theorem run_members {members : List (Text × Json)}
    (values : ∀ member ∈ members, RunsThrough member.2) (filled : members ≠ []) (stack : List Frame)
    (fits : stack.length + 1 + depthMembers members ≤ maxDepth) (done : List (Text × Json))
    (more : List Token) :
    run stack (.name done) (memberTokens members ++ .closeBrace :: more) =
      run stack (.after (.object (done.reverse ++ members))) more := by
  induction members generalizing done with
  | nil => contradiction
  | cons member rest ih =>
    obtain ⟨name, value⟩ := member
    rw [depthMembers] at fits
    have named (tokens : List Token) :
        run stack (.name done) (.scalar (.string name) :: .colon :: tokens) =
          run (.members done name :: stack) .value tokens := by
      have step : step stack (.name done) (.scalar (.string name)) =
          some (stack, .colon done name) := by cases done <;> rfl
      rw [run_cons step, run_cons rfl]
    have first := values (name, value) (by simp) (.members done name :: stack) .value (.inl rfl)
      (by simp only [List.length_cons]; omega)
    cases rest with
    | nil =>
      rw [memberTokens, List.cons_append, List.cons_append, named, first]
      exact run_cons (by simp [step, endValue]) more
    | cons next rest =>
      have later := ih (fun member inside => values member (by simp [inside])) (by simp) (by omega)
        ((name, value) :: done)
      have comma : step (.members done name :: stack) (.after value) .comma =
          some (stack, .name ((name, value) :: done)) := rfl
      rw [memberTokens, List.cons_append, List.cons_append, named, List.append_assoc, first,
        List.cons_append, run_cons comma, later]
      · simp
      · simp

theorem runsThrough (json : Json) : RunsThrough json := by
  induction json using nestedInduction with
  | scalar json flat =>
    intro stack reading starts _ more
    rw [tokens_scalar flat]
    exact run_cons (step_startsValue starts (by simp)) more
  | array items values =>
    intro stack reading starts fits more
    rw [depth] at fits
    have opened : step stack reading .openBracket = some (.items [] :: stack, .firstItem) := by
      rw [step_startsValue starts (by simp), beginValue, if_pos (by omega)]
    rw [tokens, List.cons_append, List.append_assoc, run_cons opened]
    -- An empty array is closed from its first item; the others are read item by item.
    by_cases empty : items = []
    · rw [empty, itemTokens]
      exact run_cons rfl more
    · exact run_items values empty stack (by omega) [] (.inr ⟨rfl, stack, rfl⟩) more
  | object members values =>
    intro stack reading starts fits more
    rw [depth] at fits
    have opened : step stack reading .openBrace = some (stack, .name []) := by
      rw [step_startsValue starts (by simp), beginValue, if_pos (by omega)]
    rw [tokens, List.cons_append, List.append_assoc, run_cons opened]
    by_cases empty : members = []
    · rw [empty, memberTokens]
      exact run_cons rfl more
    · exact run_members values empty stack (by omega) [] more

end LintServer.Json
