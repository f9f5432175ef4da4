import LoginGateway.Proofs.Login.Escape

namespace LoginGateway.Login

open Lexeme

/-- A JSON value. Strings and names are the octets between their quotes; numbers and words are not told
apart. -/
inductive Value where
  | scalar
  | string (raw : List UInt8)
  | list (elements : List Value)
  | object (members : List (List UInt8 × Value))

namespace Value

mutual

def lexemes : Value → List Lexeme
  | .scalar => [.scalar]
  | .string raw => [.string raw]
  | .list [] => [.listOpen, .listClose]
  | .list (v :: vs) => .listOpen :: (v.lexemes ++ (furtherElements vs ++ [.listClose]))
  | .object [] => [.objectOpen, .objectClose]
  | .object ((name, v) :: ms) =>
    .objectOpen :: .string name :: .colon :: (v.lexemes ++ (furtherMembers ms ++ [.objectClose]))

def furtherElements : List Value → List Lexeme
  | [] => []
  | v :: vs => .comma :: (v.lexemes ++ furtherElements vs)

def furtherMembers : List (List UInt8 × Value) → List Lexeme
  | [] => []
  | (name, v) :: ms => .comma :: .string name :: .colon :: (v.lexemes ++ furtherMembers ms)

end

section Append

variable {name : List UInt8} {v : Value} {vs : List Value} {ms : List (List UInt8 × Value)}
  {later : List Lexeme}

theorem furtherElements_cons_append :
    furtherElements (v :: vs) ++ later = .comma :: (v.lexemes ++ (furtherElements vs ++ later)) := by
  rw [furtherElements, List.cons_append, List.append_assoc]

theorem furtherMembers_cons_append : furtherMembers ((name, v) :: ms) ++ later =
    .comma :: .string name :: .colon :: (v.lexemes ++ (furtherMembers ms ++ later)) := by
  rw [furtherMembers, List.cons_append, List.cons_append, List.cons_append, List.append_assoc]

theorem lexemes_list_append : (list (v :: vs)).lexemes ++ later =
    .listOpen :: (v.lexemes ++ (furtherElements vs ++ .listClose :: later)) := by
  rw [lexemes, List.cons_append, List.append_assoc, List.append_assoc]
  rfl

theorem lexemes_object_append : (object ((name, v) :: ms)).lexemes ++ later =
    .objectOpen :: .string name :: .colon ::
      (v.lexemes ++ (furtherMembers ms ++ .objectClose :: later)) := by
  rw [lexemes, List.cons_append, List.cons_append, List.cons_append, List.append_assoc, List.append_assoc]
  rfl

end Append

theorem length_lexemes_pos (v : Value) : 0 < v.lexemes.length := by
  obtain _ | _ | ⟨_ | _⟩ | ⟨_ | ⟨⟨_, _⟩, _⟩⟩ := v <;> exact Nat.zero_lt_succ _

/-- The octets are a JSON text of the value. -/
def Writes (v : Value) (octets : List UInt8) : Prop := Spelled octets v.lexemes

def Unnamed (word : String) (members : List (List UInt8 × Value)) : Prop :=
  ∀ member ∈ members, ∃ name, Denotes member.1 name ∧ name ≠ word.toList

/-- The value gives the password: it is an object whose names are texts, one member of it is named for
it, and that is a string that stands for it; or it is a list of just such a string. -/
def Gives (password : String) : Value → Prop
  | .object members => ∃ before name raw after, members = before ++ (name, .string raw) :: after ∧
      Denotes name "password".toList ∧ Denotes raw password.toList ∧ Unnamed "password" (before ++ after)
  | .list elements => ∃ raw, elements = [.string raw] ∧ Denotes raw password.toList
  | _ => False

section Apart

def Behind (lexemes : List Lexeme) : Prop := Apart (.scalar :: lexemes)

variable {lexeme : Lexeme} {lexemes : List Lexeme}

theorem apart_of_behind (h : Behind lexemes) : Apart lexemes :=
  Apart.of_append (show Apart ([.scalar] ++ lexemes) from h)

theorem behind_cons (hlexeme : lexeme ≠ .scalar) (h : Apart lexemes) : Behind (lexeme :: lexemes) := by
  rw [Behind, Apart, List.infix_cons_iff, List.infix_cons_iff, List.cons_prefix_cons,
    List.cons_prefix_cons, List.cons_prefix_cons, not_or, not_or]
  exact ⟨fun hfront => hlexeme hfront.2.1.symm, fun hfront => hlexeme hfront.1.symm, h⟩

theorem apart_cons (hlexeme : lexeme ≠ .scalar) (h : Apart lexemes) : Apart (lexeme :: lexemes) :=
  apart_of_behind (behind_cons hlexeme h)

mutual

theorem apart_lexemes : ∀ (v : Value) {later : List Lexeme}, Behind later → Apart (v.lexemes ++ later)
  | .scalar, _, h => h
  | .string raw, _, h => apart_cons Lexeme.noConfusion (apart_of_behind h)
  | .list [], _, h => apart_cons (by decide) (apart_cons (by decide) (apart_of_behind h))
  | .list (v :: vs), later, h => by
    have hclose : Behind (.listClose :: later) := behind_cons (by decide) (apart_of_behind h)
    rw [lexemes_list_append]
    exact apart_cons (by decide) (apart_lexemes v (behind_furtherElements vs hclose))
  | .object [], _, h => apart_cons (by decide) (apart_cons (by decide) (apart_of_behind h))
  | .object ((name, v) :: ms), later, h => by
    have hclose : Behind (.objectClose :: later) := behind_cons (by decide) (apart_of_behind h)
    rw [lexemes_object_append]
    exact apart_cons (by decide) (apart_cons Lexeme.noConfusion (apart_cons (by decide)
      (apart_lexemes v (behind_furtherMembers ms hclose))))

theorem behind_furtherElements :
    ∀ (vs : List Value) {later : List Lexeme}, Behind later → Behind (furtherElements vs ++ later)
  | [], _, h => h
  | v :: vs, later, h => by
    rw [furtherElements_cons_append]
    exact behind_cons (by decide) (apart_lexemes v (behind_furtherElements vs h))

theorem behind_furtherMembers :
    ∀ (ms : List (List UInt8 × Value)) {later : List Lexeme}, Behind later →
      Behind (furtherMembers ms ++ later)
  | [], _, h => h
  | (name, v) :: ms, later, h => by
    rw [furtherMembers_cons_append]
    exact behind_cons (by decide) (apart_cons Lexeme.noConfusion (apart_cons (by decide)
      (apart_lexemes v (behind_furtherMembers ms h))))

end

/-- No two numbers or words stand next to each other in a value. -/
theorem apart (v : Value) : Apart v.lexemes := by
  have hnil : Behind [] := fun hwithin => absurd hwithin.length_le (by decide)
  have h := apart_lexemes v hnil
  rwa [List.append_nil] at h

end Apart

theorem writes_iff {v : Value} {octets : List UInt8} : v.Writes octets ↔ scan? octets = some v.lexemes :=
  (scan?_eq_some_iff v.apart).symm

theorem isStringBody_of_spelled {raw octets : List UInt8} {lexemes : List Lexeme}
    (h : Spelled octets lexemes)
    (hmem : .string raw ∈ lexemes) : IsStringBody raw := by
  induction h with
  | nil => cases hmem
  | blank _ _ ih => exact ih hmem
  | cons hfront _ ih =>
    obtain rfl | hmem := List.mem_cons.mp hmem
    · cases hfront with
      | mark hmark => exact absurd hmark (by simp [marks])
      | string hraw => exact hraw
    · exact ih hmem

section Strings

variable {name raw octets : List UInt8} {v : Value} {ms : List (List UInt8 × Value)}

theorem mem_furtherMembers (hmem : (name, v) ∈ ms) (h : raw = name ∨ .string raw ∈ v.lexemes) :
    .string raw ∈ furtherMembers ms := by
  induction ms with
  | nil => cases hmem
  | cons member ms ih =>
    obtain ⟨name', v'⟩ := member
    simp only [furtherMembers, List.mem_cons, List.mem_append]
    obtain heq | hmem := List.mem_cons.mp hmem
    · obtain ⟨rfl, rfl⟩ := Prod.mk.inj heq
      obtain rfl | h := h
      · exact .inr (.inl rfl)
      · exact .inr (.inr (.inr (.inl h)))
    · exact .inr (.inr (.inr (.inr (ih hmem))))

theorem mem_lexemes_object (hmem : (name, v) ∈ ms) (h : raw = name ∨ .string raw ∈ v.lexemes) :
    .string raw ∈ (object ms).lexemes := by
  have hfurther := mem_furtherMembers hmem h
  cases ms with
  | nil => cases hmem
  | cons member ms =>
    obtain ⟨name', v'⟩ := member
    simp only [furtherMembers, List.mem_cons, List.mem_append, reduceCtorEq, false_or] at hfurther
    simp only [Value.lexemes, List.mem_cons, List.mem_append, reduceCtorEq, false_or]
    obtain hname | hvalue | hmembers := hfurther
    · exact .inl hname
    · exact .inr (.inl hvalue)
    · exact .inr (.inr (.inl hmembers))

theorem Writes.isStringBody {v : Value} (h : v.Writes octets) (hmem : .string raw ∈ v.lexemes) :
    IsStringBody raw :=
  isStringBody_of_spelled h hmem

theorem exists_decode?_iff (h : IsStringBody raw) {word : String} :
    (∃ name, decode? raw = some name ∧ name ≠ word) ↔ ∃ name, Denotes raw name ∧ name ≠ word.toList := by
  simp only [decode?_eq_some_iff h]
  constructor
  · rintro ⟨name, hname, hne⟩
    exact ⟨name.toList, hname, mt String.toList_inj.mp hne⟩
  · rintro ⟨name, hname, hne⟩
    refine ⟨String.ofList name, by rwa [String.toList_ofList], ?_⟩
    rintro rfl
    exact hne String.toList_ofList.symm

end Strings

end Value

end LoginGateway.Login
