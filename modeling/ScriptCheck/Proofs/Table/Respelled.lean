import Mathlib.Algebra.Group.End
import Mathlib.Data.Fintype.Sum
import ScriptCheck.Numeral
import ScriptCheck.Table

/-! # Tables with other names

A respelling of all words that keeps them apart commutes with every operation of the table of variables. A renaming
of some words alone is the part of such a respelling that moves them (`Respelling.exists_extending`): what it takes
away from a word it can give back to another one, and all words that have no part in it stay as they are.
-/

namespace ScriptCheck

/-- Another spelling of all words. No two words get the same one, and each numeral keeps its value. -/
structure Respelling where
  spell : String → String
  injective : Function.Injective spell
  value?_spell : ∀ word, Numeral.value? (spell word) = Numeral.value? word

namespace Respelling

instance : CoeFun Respelling fun _ => String → String := ⟨spell⟩

variable (σ : Respelling)

@[simp] theorem spell_inj {first second : String} : σ first = σ second ↔ first = second := σ.injective.eq_iff

/-- A renaming of finitely many words that are no numerals, as part of a respelling that moves no other words than
these and those to which they are renamed. -/
theorem exists_extending (words : Finset String) (r : String → String) (apart : Set.InjOn r words)
    (plain : ∀ word ∈ words, Numeral.value? word = none)
    (renamed : ∀ word ∈ words, Numeral.value? (r word) = none) :
    ∃ σ : Respelling, (∀ word ∈ words, σ word = r word) ∧
      ∀ word, word ∉ words → word ∉ words.image r → σ word = word := by
  let moved : Finset String := words ∪ words.image r
  -- The words that move are finitely many, so what is injective on some of them is part of a permutation.
  obtain ⟨g, agrees⟩ : ∃ g : moved ≃ moved, ∀ word ∈ {word : moved | word.1 ∈ words}, (g word).1 = r word := by
    refine Set.MapsTo.exists_equiv_extend_of_card_eq (Fintype.card_coe moved) ?_ ?_
    · intro word member
      exact Finset.mem_union_right _ (Finset.mem_image_of_mem r member)
    · intro first isFirst second isSecond same
      exact Subtype.ext (apart isFirst isSecond same)
  let permutation : Equiv.Perm String := Equiv.Perm.ofSubtype g
  have outside {word : String} (still : word ∉ moved) : permutation word = word :=
    Equiv.Perm.ofSubtype_apply_of_not_mem g still
  have inside {word : String} (moves : word ∈ moved) : permutation word = g ⟨word, moves⟩ :=
    Equiv.Perm.ofSubtype_apply_of_mem g moves
  have noNumeral {word : String} (moves : word ∈ moved) : Numeral.value? word = none := by
    rcases Finset.mem_union.mp moves with member | image
    · exact plain word member
    · obtain ⟨other, member, rfl⟩ := Finset.mem_image.mp image
      exact renamed other member
  refine ⟨⟨permutation, permutation.injective, fun word => ?_⟩, fun word member => ?_, fun word notHere notThere => ?_⟩
  · by_cases moves : word ∈ moved
    · rw [inside moves, noNumeral (g ⟨word, moves⟩).2, noNumeral moves]
    · rw [outside moves]
  · exact (inside (Finset.mem_union_left _ member)).trans (agrees _ member)
  · exact outside (by simp [moved, notHere, notThere])

end Respelling

/-- The variable under the name that a function makes of its own. -/
def Symbol.rename (r : String → String) (symbol : Symbol) : Symbol := { symbol with name := r symbol.name }

@[simp] theorem Symbol.rename_name (r : String → String) (symbol : Symbol) :
    (symbol.rename r).name = r symbol.name := rfl

@[simp] theorem Symbol.rename_id : Symbol.rename id = id := rfl

def Table.rename (r : String → String) (table : Table) : Table := ⟨table.symbols.map (Symbol.rename r)⟩

namespace Table

variable (σ : Respelling) (table : Table) (name : String)

theorem find?_respell : (table.rename σ).find? (σ name) = (table.find? name).map (Symbol.rename σ) := by
  rw [rename, find?, find?, List.find?_map]
  congr 2
  funext symbol
  simp

theorem resolve_respell (place : Scope) : (table.rename σ).resolve (σ name) place = table.resolve name place := by
  rw [resolve, resolve, find?_respell]
  cases table.find? name <;> rfl

private theorem has_respell : (table.rename σ).has (σ name) = table.has name := by
  rw [has, has, find?_respell, Option.isSome_map]

theorem declare?_respell (type : ValueType) (place : Scope) :
    (table.rename σ).declare? (σ name) type place = (table.declare? name type place).map (rename σ) := by
  rw [declare?, declare?, has_respell]
  split
  · rfl
  · simp [rename, Symbol.rename, Symbol.declared]

/-- What is done to a variable whatever its name is, is done to it under its other name. -/
theorem change_respell {f : Symbol → Symbol}
    (blind : ∀ symbol, f (symbol.rename σ) = (f symbol).rename σ) :
    (table.rename σ).change (σ name) f = (table.change name f).rename σ := by
  simp only [change, rename, List.map_map, Table.mk.injEq]
  apply List.map_congr_left
  intro symbol _
  by_cases same : symbol.name = name <;> simp [same, blind]

theorem assign_respell (value : Value) :
    (table.rename σ).assign (σ name) value = (table.assign name value).rename σ :=
  table.change_respell σ name fun _ => rfl

theorem update_respell (value : Value) :
    (table.rename σ).update (σ name) value = (table.update name value).rename σ :=
  table.change_respell σ name fun _ => rfl

end Table

end ScriptCheck
