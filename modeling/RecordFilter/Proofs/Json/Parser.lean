import RecordFilter.Json.Parser
import RecordFilter.Proofs.Json.Draft

/-!
# What the machine makes of a sequence of tokens

`Json.tokens` is the sequence of tokens that a value is written as.  The machine reads it as the
draft of the value, as long as the value is nested no deeper than the machine allows
(`Draft.ofTokens?_tokens`).

In the other direction, only one token by itself is read as a scalar
(`Draft.eq_singleton_of_ofTokens?`): once a container is open, what is delivered at the end is a
container, or void.
-/

namespace RecordFilter.Json

/-! ### The tokens of a value -/

mutual

/-- The tokens that a value is written as. -/
def tokens : Json → List Token
  | .null => [.null]
  | .bool b => [.bool b]
  | .number n => [.number (some n)]
  | .string s => [.string (some s)]
  | .array items => .openArray :: itemsTokens items
  | .object members => .openObject :: membersTokens members

/-- The tokens of the items of an array, up to the closing bracket. -/
def itemsTokens : List Json → List Token
  | [] => [.closeArray]
  | item :: rest => tokens item ++ moreItemsTokens rest

/-- The tokens that follow an item of an array. -/
def moreItemsTokens : List Json → List Token
  | [] => [.closeArray]
  | item :: rest => .comma :: (tokens item ++ moreItemsTokens rest)

/-- The tokens of the members of an object, up to the closing brace. -/
def membersTokens : List (String × Json) → List Token
  | [] => [.closeObject]
  | (key, value) :: rest =>
    .string (some key) :: .colon :: (tokens value ++ moreMembersTokens rest)

/-- The tokens that follow a member of an object. -/
def moreMembersTokens : List (String × Json) → List Token
  | [] => [.closeObject]
  | (key, value) :: rest =>
    .comma :: .string (some key) :: .colon :: (tokens value ++ moreMembersTokens rest)

end

/-- A value does not start with a closing bracket. -/
lemma exists_tokens_eq_cons (json : Json) :
    ∃ t more, json.tokens = t :: more ∧ t ≠ .closeArray := by
  cases json <;> exact ⟨_, _, rfl, Token.noConfusion⟩

/-! ### Running the machine -/

variable {stack : List Frame}

/-- A run takes the first token and goes on with the others. -/
lemma run?_cons (state : Expectation) (token : Token) (rest : List Token) :
    run? state (token :: rest) = (step? state token).bind (run? · rest) := by
  rw [run?]
  cases step? state token with
  | none => rfl
  | some next => rfl

/-- A run over some tokens and others is the run over the others from where the first one ends. -/
lemma run?_append (state : Expectation) (first second : List Token) :
    run? state (first ++ second) = (run? state first).bind (run? · second) := by
  induction first generalizing state with
  | nil => rfl
  | cons t first ih =>
    rw [List.cons_append, run?_cons, run?_cons, Option.bind_assoc]
    exact congrArg _ (funext ih)

/-- A container that is not nested too deeply is delivered. -/
lemma close_of_lt (draft : Draft) (h : stack.length < maxDepth) :
    close draft stack = deliver draft stack := by
  have hdrop : stack.drop (maxDepth - 1) = [] :=
    List.drop_eq_nil_of_le (Nat.le_sub_one_of_lt h)
  rw [close, hdrop, List.isEmpty_nil, if_pos rfl]

/-- A token that completes a container that is not nested too deeply delivers it. -/
lemma run?_singleton_close {state : Expectation} {token : Token} {draft : Draft}
    (hdepth : stack.length < maxDepth) (h : step? state token = some (close draft stack)) :
    run? state [token] = some (deliver draft stack) := by
  rw [run?_cons, h, Option.bind_some, run?, close_of_lt draft hdepth]

/-- The first item of an array is read as any other value. -/
lemma run?_firstItem (item : Json) (more : List Token) :
    run? (.firstItem stack) (item.tokens ++ more) =
      run? (.value (.array [] :: stack)) (item.tokens ++ more) := by
  obtain ⟨t, rest, htokens, ht⟩ := item.exists_tokens_eq_cons
  rw [htokens, List.cons_append, run?_cons, run?_cons]
  cases t with
  | closeArray => contradiction
  | _ => rfl

/-- What follows an item is read as the items behind it. -/
lemma run?_moreItemsTokens {items : List Json} (hdepth : stack.length < maxDepth)
    (hitems : ∀ item ∈ items, ∀ read,
      run? (.value (.array read :: stack)) item.tokens =
        some (deliver item.draft (.array read :: stack)))
    (read : List Draft) :
    run? (.itemEnd read stack) (moreItemsTokens items) =
      some (deliver (.array (read.reverse ++ items.map draft)) stack) := by
  induction items generalizing read with
  | nil =>
    rw [List.map_nil, List.append_nil]
    exact run?_singleton_close hdepth rfl
  | cons item items ih =>
    rw [List.forall_mem_cons] at hitems
    rw [moreItemsTokens, run?_cons, step?, Option.bind_some, run?_append, hitems.1,
      Option.bind_some, deliver, ih hitems.2]
    simp

/-- What follows the opening bracket of an array is read as its items. -/
lemma run?_itemsTokens {items : List Json} (hdepth : stack.length < maxDepth)
    (hitems : ∀ item ∈ items, ∀ read,
      run? (.value (.array read :: stack)) item.tokens =
        some (deliver item.draft (.array read :: stack))) :
    run? (.firstItem stack) (itemsTokens items) =
      some (deliver (.array (items.map draft)) stack) := by
  cases items with
  | nil => exact run?_singleton_close hdepth rfl
  | cons item items =>
    rw [List.forall_mem_cons] at hitems
    rw [itemsTokens, run?_firstItem, run?_append, hitems.1, Option.bind_some, deliver,
      run?_moreItemsTokens hdepth hitems.2]
    simp

/-- The draft of members all of whose keys stand for a text. -/
lemma Draft.ofMembers_some (members : List (String × Draft)) :
    Draft.ofMembers (members.map fun member => (some member.1, member.2)) = .object members := by
  have hkeyed : Draft.keyed? (members.map fun member => (some member.1, member.2)) =
      some members := by
    induction members with
    | nil => rfl
    | cons member members ih => rw [List.map_cons, Draft.keyed?, ih, Option.map_some]
  rw [ofMembers, hkeyed, Option.map_some, Option.getD_some]

/-- What follows a member is read as the members behind it. -/
lemma run?_moreMembersTokens {members : List (String × Json)} (hdepth : stack.length < maxDepth)
    (hmembers : ∀ member ∈ members, ∀ read key,
      run? (.value (.object read key :: stack)) member.2.tokens =
        some (deliver member.2.draft (.object read key :: stack)))
    (read : List (Option String × Draft)) :
    run? (.memberEnd read stack) (moreMembersTokens members) =
      some (deliver (.ofMembers (read.reverse ++
        members.map fun member => (some member.1, member.2.draft))) stack) := by
  induction members generalizing read with
  | nil =>
    rw [List.map_nil, List.append_nil]
    exact run?_singleton_close hdepth rfl
  | cons member members ih =>
    obtain ⟨key, value⟩ := member
    rw [List.forall_mem_cons] at hmembers
    rw [moreMembersTokens, run?_cons, step?, Option.bind_some, run?_cons, step?,
      Option.bind_some, run?_cons, step?, Option.bind_some, run?_append, hmembers.1,
      Option.bind_some, deliver, ih hmembers.2]
    simp

/-- What follows the opening brace of an object is read as its members. -/
lemma run?_membersTokens {members : List (String × Json)} (hdepth : stack.length < maxDepth)
    (hmembers : ∀ member ∈ members, ∀ read key,
      run? (.value (.object read key :: stack)) member.2.tokens =
        some (deliver member.2.draft (.object read key :: stack))) :
    run? (.firstKey stack) (membersTokens members) =
      some (deliver (.object (members.map fun member => (member.1, member.2.draft))) stack) := by
  have hobject := Draft.ofMembers_some (members.map fun member => (member.1, member.2.draft))
  rw [List.map_map] at hobject
  cases members with
  | nil => exact run?_singleton_close hdepth rfl
  | cons member members =>
    obtain ⟨key, value⟩ := member
    rw [List.forall_mem_cons] at hmembers
    rw [membersTokens, run?_cons, step?, Option.bind_some, run?_cons, step?, Option.bind_some,
      run?_append, hmembers.1, Option.bind_some, deliver,
      run?_moreMembersTokens hdepth hmembers.2, ← hobject]
    rfl

/-- An item is not deeper than the deepest of the items. -/
lemma depth_le_depthOfItems {item : Json} {items : List Json} (h : item ∈ items) :
    item.depth ≤ depthOfItems items := by
  induction items with
  | nil => exact absurd h List.not_mem_nil
  | cons first rest ih =>
    rw [depthOfItems]
    rcases List.mem_cons.1 h with rfl | hmem
    · exact Nat.le_max_left _ _
    · exact Nat.le_trans (ih hmem) (Nat.le_max_right _ _)

/-- A member is not deeper than the deepest of the members. -/
lemma depth_le_depthOfMembers {member : String × Json} {members : List (String × Json)}
    (h : member ∈ members) : member.2.depth ≤ depthOfMembers members := by
  induction members with
  | nil => exact absurd h List.not_mem_nil
  | cons first rest ih =>
    obtain ⟨key, value⟩ := first
    rw [depthOfMembers]
    rcases List.mem_cons.1 h with rfl | hmem
    · exact Nat.le_max_left _ _
    · exact Nat.le_trans (ih hmem) (Nat.le_max_right _ _)

/-- **The machine reads what is written.**  Inside the containers on the stack, the tokens of a
value deliver its draft. -/
theorem run?_tokens (json : Json) {stack : List Frame}
    (h : stack.length + json.depth ≤ maxDepth) :
    run? (.value stack) json.tokens = some (deliver json.draft stack) := by
  induction json using Json.induction generalizing stack with
  | null => rfl
  | bool b => rfl
  | number n => rfl
  | string s => rfl
  -- Inside a container the stack is longer by one, and what is left to read is less deep by one.
  | array items ih =>
    rw [depth] at h
    rw [tokens, run?_cons, step?, beginValue?, Option.bind_some, draft_array]
    refine run?_itemsTokens (by omega) fun item hitem read => ih item hitem ?_
    have := depth_le_depthOfItems hitem
    rw [List.length_cons]
    omega
  | object members ih =>
    rw [depth] at h
    rw [tokens, run?_cons, step?, beginValue?, Option.bind_some, draft_object]
    refine run?_membersTokens (by omega) fun member hmember read key => ih member hmember ?_
    have := depth_le_depthOfMembers hmember
    rw [List.length_cons]
    omega

/-- The tokens of a value that is not nested too deeply stand for its draft. -/
theorem Draft.ofTokens?_tokens {json : Json} (h : json.depth ≤ maxDepth) :
    Draft.ofTokens? json.tokens = some json.draft := by
  rw [Draft.ofTokens?, run?_tokens json (by simpa using h), deliver]

/-! ### Scalars -/

/-- Whether a draft is what a container can be read as. -/
def Draft.IsContainer : Draft → Prop
  | .array _ | .object _ | .void => True
  | _ => False

/-- Whether the machine is inside a container, or has read one. -/
def Expectation.IsInside : Expectation → Prop
  | .value stack => stack ≠ []
  | .nothing draft => draft.IsContainer
  | _ => True

/-- A value that is delivered to a container leaves the machine inside of it. -/
lemma isInside_deliver {draft : Draft} (h : stack ≠ [] ∨ draft.IsContainer) :
    (deliver draft stack).IsInside := by
  match stack with
  | [] => exact h.resolve_left (absurd rfl)
  | .array _ :: _ => trivial
  | .object _ _ :: _ => trivial

/-- A container that is complete leaves the machine with a container. -/
lemma isInside_close {draft : Draft} (h : draft.IsContainer) : (close draft stack).IsInside := by
  refine isInside_deliver (.inr ?_)
  split_ifs
  · exact h
  · trivial

/-- The members of an object make up what a container can be read as. -/
lemma Draft.isContainer_ofMembers (members : List (Option String × Draft)) :
    (Draft.ofMembers members).IsContainer := by
  unfold ofMembers
  cases keyed? members with
  | none => trivial
  | some members => trivial

/-- The first token of a value inside a container leaves the machine inside. -/
lemma isInside_of_beginValue? {token : Token} {next : Expectation} (hstack : stack ≠ [])
    (h : beginValue? stack token = some next) : next.IsInside := by
  cases token <;> simp only [beginValue?, Option.some.injEq, reduceCtorEq] at h <;> subst h <;>
    first | trivial | exact isInside_deliver (.inl hstack)

/-- No token leads out of a container. -/
lemma isInside_of_step? {state next : Expectation} {token : Token} (hinside : state.IsInside)
    (h : step? state token = some next) : next.IsInside := by
  unfold step? at h
  split at h
  case h_1 stack token => exact isInside_of_beginValue? hinside h
  case h_3 stack token htoken => exact isInside_of_beginValue? (List.cons_ne_nil _ _) h
  case h_12 => contradiction
  all_goals
    obtain rfl := Option.some.inj h
    first
      | trivial
      | exact List.cons_ne_nil _ _
      | exact isInside_close trivial
      | exact isInside_close (Draft.isContainer_ofMembers _)

/-- No run leads out of a container. -/
lemma isInside_of_run? {state final : Expectation} {tokens : List Token}
    (hinside : state.IsInside) (h : run? state tokens = some final) : final.IsInside := by
  induction tokens generalizing state with
  | nil =>
    obtain rfl := Option.some.inj h
    exact hinside
  | cons token tokens ih =>
    rw [run?_cons, Option.bind_eq_some_iff] at h
    obtain ⟨next, hstep, hrun⟩ := h
    exact ih (isInside_of_step? hinside hstep) hrun

/-- The first token of a text is the whole value, or it opens a container. -/
lemma eq_nothing_or_isInside {token : Token} {next : Expectation}
    (h : beginValue? [] token = some next) :
    (∃ draft, next = .nothing draft) ∨ next.IsInside := by
  cases token <;> simp only [beginValue?, Option.some.injEq, reduceCtorEq] at h <;> subst h <;>
    first | exact .inl ⟨_, rfl⟩ | exact .inr trivial

/-- **Scalars are single tokens.**  What is read as neither an array nor an object nor a void part
is a token by itself. -/
theorem Draft.exists_eq_singleton_of_ofTokens? {tokens : List Token} {draft : Draft}
    (h : Draft.ofTokens? tokens = some draft) (hscalar : ¬ draft.IsContainer) :
    ∃ t, tokens = [t] ∧ beginValue? [] t = some (.nothing draft) := by
  unfold ofTokens? at h
  split at h
  case h_2 => contradiction
  case h_1 read hrun =>
  obtain rfl := Option.some.inj h
  cases tokens with
  | nil => cases hrun
  | cons t rest =>
    rw [run?_cons, Option.bind_eq_some_iff] at hrun
    obtain ⟨next, hstep, hrun⟩ := hrun
    rcases eq_nothing_or_isInside hstep with ⟨first, rfl⟩ | hinside
    · cases rest with
      | nil =>
        obtain rfl := Expectation.nothing.inj (Option.some.inj hrun)
        exact ⟨t, rfl, hstep⟩
      | cons token rest => cases hrun
    · exact absurd (isInside_of_run? hinside hrun) hscalar

end RecordFilter.Json
