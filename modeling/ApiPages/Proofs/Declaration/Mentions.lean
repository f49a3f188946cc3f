import ApiPages.Declaration.Member
import Mathlib.Data.List.Lex
import Mathlib.Order.Basic

/-!
Type parameters by their positions in a type. A position is the list of argument numbers on the way
to it, so the order in which a type is written, each classifier before its arguments, is the
lexicographic order of positions. Main statement: a member lists the parameters that its receiver
mentions without a declaration, and the first it lists is the first that is written.
-/

namespace ApiPages

namespace TypeDescriptor

def at? : TypeDescriptor → List Nat → Option TypeDescriptor
  | type, [] => some type
  | type, number :: rest =>
    match type.arguments[number]? with
    | some (.projected _ inner) => inner.at? rest
    | _ => none

def Mentions (type : TypeDescriptor) (position : List Nat) (id : UInt32) : Prop :=
  ∃ arguments, type.at? position = some (.of (.ofParameter id) arguments)

end TypeDescriptor

abbrev Mention := List Nat × UInt32

mutual

def TypeDescriptor.mentions : TypeDescriptor → List Mention
  | .of (.ofParameter id) arguments => ([], id) :: TypeArgument.mentionsFrom 0 arguments
  | .of _ arguments => TypeArgument.mentionsFrom 0 arguments

def TypeArgument.mentions : TypeArgument → List Mention
  | .star _ => []
  | .projected _ type => type.mentions

/-- The type parameters in some arguments, the first of which has the given number. -/
def TypeArgument.mentionsFrom (number : Nat) : List TypeArgument → List Mention
  | [] => []
  | argument :: rest =>
    (argument.mentions.map fun mention => (number :: mention.1, mention.2)) ++
      TypeArgument.mentionsFrom (number + 1) rest

end

mutual

theorem TypeDescriptor.map_snd_mentions :
    ∀ type : TypeDescriptor, type.mentions.map Prod.snd = type.parameterIds
  | .of classifier arguments => by
    have behind := TypeArgument.map_snd_mentionsFrom 0 arguments
    cases classifier <;> simp [TypeDescriptor.mentions, TypeDescriptor.parameterIds, behind]

theorem TypeArgument.map_snd_mentions :
    ∀ argument : TypeArgument, argument.mentions.map Prod.snd = argument.parameterIds
  | .star _ => rfl
  | .projected _ type => type.map_snd_mentions

theorem TypeArgument.map_snd_mentionsFrom (number : Nat) : ∀ arguments : List TypeArgument,
    (TypeArgument.mentionsFrom number arguments).map Prod.snd =
      TypeArgument.parameterIdsOfList arguments
  | [] => rfl
  | argument :: rest => by
    rw [TypeArgument.mentionsFrom, TypeArgument.parameterIdsOfList, List.map_append, List.map_map,
      TypeArgument.map_snd_mentionsFrom, ← argument.map_snd_mentions]
    rfl

end

theorem TypeArgument.mem_mentionsFrom_iff {number : Nat} {arguments : List TypeArgument}
    {mention : Mention} :
    mention ∈ TypeArgument.mentionsFrom number arguments ↔
      ∃ index variance inner below, arguments[index]? = some (.projected variance inner) ∧
        (below, mention.2) ∈ inner.mentions ∧ mention.1 = (number + index) :: below := by
  induction arguments generalizing number with
  | nil => simp [TypeArgument.mentionsFrom]
  | cons argument rest ih =>
    rw [TypeArgument.mentionsFrom, List.mem_append, ih]
    constructor
    · rintro (first | ⟨index, variance, inner, below, found, member, position⟩)
      · obtain ⟨⟨below, id⟩, member, rfl⟩ := List.mem_map.1 first
        cases argument with
        | star => simp [TypeArgument.mentions] at member
        | projected variance inner => exact ⟨0, variance, inner, below, rfl, member, rfl⟩
      · exact ⟨index + 1, variance, inner, below, found, member, by rw [position]; congr 1; omega⟩
    · rintro ⟨index, variance, inner, below, found, member, position⟩
      obtain ⟨place, id⟩ := mention
      obtain rfl := position
      cases index with
      | zero =>
        obtain rfl := Option.some.inj found
        exact .inl (List.mem_map.2 ⟨(below, id), member, rfl⟩)
      | succ index =>
        exact .inr ⟨index, variance, inner, below, found, member, by dsimp only; congr 1; omega⟩

namespace TypeDescriptor

theorem mem_mentions_iff {type : TypeDescriptor} {position : List Nat} {id : UInt32} :
    (position, id) ∈ type.mentions ↔ type.Mentions position id := by
  induction position generalizing type with
  | nil =>
    obtain ⟨classifier, arguments⟩ := type
    have nested : ([], id) ∉ TypeArgument.mentionsFrom 0 arguments := by
      simp [TypeArgument.mem_mentionsFrom_iff]
    cases classifier <;> simp [mentions, Mentions, at?, nested, eq_comm]
  | cons number rest ih =>
    obtain ⟨classifier, arguments⟩ := type
    have nested : (number :: rest, id) ∈ (of classifier arguments).mentions ↔
        (number :: rest, id) ∈ TypeArgument.mentionsFrom 0 arguments := by
      cases classifier <;> simp [mentions]
    rw [nested, TypeArgument.mem_mentionsFrom_iff, Mentions]
    simp only [at?, TypeDescriptor.arguments, Nat.zero_add, List.cons.injEq]
    constructor
    · rintro ⟨_, variance, inner, _, found, member, rfl, rfl⟩
      simp only [found]
      exact ih.1 member
    · rintro ⟨others, reached⟩
      cases found : arguments[number]? with
      | none => simp [found] at reached
      | some argument =>
        cases argument with
        | star => simp [found] at reached
        | projected variance inner =>
          rw [found] at reached
          exact ⟨number, variance, inner, rest, found, ih.2 ⟨others, reached⟩, rfl, rfl⟩

end TypeDescriptor

mutual

theorem TypeDescriptor.mentions_inOrder :
    ∀ type : TypeDescriptor, type.mentions.Pairwise fun one other => one.1 < other.1
  | .of classifier arguments => by
    have behind := TypeArgument.mentionsFrom_inOrder 0 arguments
    cases classifier with
    | ofClass | ofAlias => exact behind
    | ofParameter id =>
      refine List.pairwise_cons.2 ⟨fun mention member => ?_, behind⟩
      obtain ⟨_, _, _, _, -, -, position⟩ := TypeArgument.mem_mentionsFrom_iff.1 member
      rw [position]
      exact List.nil_lt_cons _ _

theorem TypeArgument.mentions_inOrder :
    ∀ argument : TypeArgument, argument.mentions.Pairwise fun one other => one.1 < other.1
  | .star _ => .nil
  | .projected _ type => type.mentions_inOrder

theorem TypeArgument.mentionsFrom_inOrder (number : Nat) : ∀ arguments : List TypeArgument,
    (TypeArgument.mentionsFrom number arguments).Pairwise fun one other => one.1 < other.1
  | [] => .nil
  | argument :: rest => by
    refine List.pairwise_append.2 ⟨?_, TypeArgument.mentionsFrom_inOrder _ rest, ?_⟩
    · rw [List.pairwise_map]
      exact argument.mentions_inOrder.imp fun before => List.cons_lt_cons_iff.2 (.inr ⟨rfl, before⟩)
    · intro one first other later
      obtain ⟨_, -, rfl⟩ := List.mem_map.1 first
      obtain ⟨_, _, _, _, -, -, position⟩ := TypeArgument.mem_mentionsFrom_iff.1 later
      rw [position]
      exact List.cons_lt_cons_iff.2 (.inl (by omega))

end

namespace Member

/-- A mention in the receiver of a type parameter that the member does not declare. -/
def Dangles (member : Member) (position : List Nat) (id : UInt32) : Prop :=
  ∃ type, member.receiver = some type ∧ type.Mentions position id ∧
    ∀ parameter ∈ member.parameters, parameter.id ≠ id

def DanglesFirst (member : Member) (id : UInt32) : Prop :=
  ∃ position, member.Dangles position id ∧
    ∀ earlier other, earlier < position → ¬member.Dangles earlier other

theorem parameter?_eq_none_iff {member : Member} {id : UInt32} :
    member.parameter? id = none ↔ ∀ parameter ∈ member.parameters, parameter.id ≠ id := by
  simp [parameter?]

def dangling (member : Member) : List Mention :=
  match member.receiver with
  | some type => type.mentions.filter fun mention => (member.parameter? mention.2).isNone
  | none => []

theorem map_snd_dangling (member : Member) :
    member.dangling.map Prod.snd = member.undeclared := by
  rw [dangling, undeclared]
  cases member.receiver with
  | none => rfl
  | some type =>
    dsimp only
    rw [← type.map_snd_mentions, List.filter_map]
    rfl

theorem mem_dangling_iff {member : Member} {position : List Nat} {id : UInt32} :
    (position, id) ∈ member.dangling ↔ member.Dangles position id := by
  rw [dangling, Dangles]
  cases member.receiver with
  | none => simp
  | some type =>
    simp [TypeDescriptor.mem_mentions_iff, parameter?_eq_none_iff]

theorem dangling_inOrder (member : Member) :
    member.dangling.Pairwise fun one other => one.1 < other.1 := by
  rw [dangling]
  cases member.receiver with
  | none => exact .nil
  | some type => exact type.mentions_inOrder.filter _

theorem undeclared_eq_nil_iff {member : Member} :
    member.undeclared = [] ↔ ∀ position id, ¬member.Dangles position id := by
  rw [← map_snd_dangling, List.map_eq_nil_iff, List.eq_nil_iff_forall_not_mem]
  simp only [Prod.forall, mem_dangling_iff]

theorem head?_undeclared_eq_some_iff {member : Member} {id : UInt32} :
    member.undeclared.head? = some id ↔ member.DanglesFirst id := by
  have ordered := member.dangling_inOrder
  rw [← map_snd_dangling, List.head?_map, Option.map_eq_some_iff, DanglesFirst]
  simp only [← mem_dangling_iff]
  cases listed : member.dangling with
  | nil => simp
  | cons first rest =>
    obtain ⟨position, found⟩ := first
    rw [listed, List.pairwise_cons] at ordered
    constructor
    · rintro ⟨mention, isFirst, rfl⟩
      obtain rfl := Option.some.inj isFirst
      refine ⟨position, List.mem_cons_self, fun earlier other before member => ?_⟩
      rcases List.mem_cons.1 member with same | later
      · obtain rfl := (Prod.mk.inj same).1
        exact lt_irrefl _ before
      · exact lt_asymm before (ordered.1 _ later)
    · rintro ⟨place, member, unpreceded⟩
      rcases List.mem_cons.1 member with same | later
      · exact ⟨(position, found), rfl, (Prod.mk.inj same).2.symm⟩
      · exact absurd List.mem_cons_self (unpreceded _ _ (ordered.1 _ later))

end Member

end ApiPages
