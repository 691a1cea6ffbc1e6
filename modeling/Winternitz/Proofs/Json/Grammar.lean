import Winternitz.Proofs.Json.Numerals
import Winternitz.Proofs.Json.Spelling

set_option autoImplicit false

namespace Winternitz.Json

def Blank (text : List Char) : Prop :=
  ∀ c ∈ text, c = ' ' ∨ c = '\t' ∨ c = '\n' ∨ c = '\r'

theorem blank_nil : Blank [] := by
  simp [Blank]

inductive FractionText : List Char → Prop
  | none : FractionText []
  | digits {d : Char} {ds : List Char} : d.isDigit = true → (∀ c ∈ ds, c.isDigit = true) →
      FractionText ('.' :: d :: ds)

inductive ExponentText : List Char → Prop
  | none : ExponentText []
  | digits {e d : Char} {sign ds : List Char} : e ∈ ['e', 'E'] → sign ∈ [[], ['+'], ['-']] →
      d.isDigit = true → (∀ c ∈ ds, c.isDigit = true) → ExponentText (e :: (sign ++ d :: ds))

inductive UnsignedText : List Char → Prop
  | parts {whole fraction exponent : List Char} : Numeral whole → FractionText fraction →
      ExponentText exponent → UnsignedText (whole ++ (fraction ++ exponent))

inductive NumberText : List Char → Prop
  | unsigned {text : List Char} : UnsignedText text → NumberText text
  | negative {text : List Char} : UnsignedText text → NumberText ('-' :: text)

/-- What may stand between quotes. An escaped surrogate may stand alone, though it means nothing. -/
inductive QuotedText : List Char → Prop
  | nil : QuotedText []
  | raw {c : Char} {rest : List Char} : c ≠ '"' → c ≠ '\\' → 0x20 ≤ c.toNat → QuotedText rest →
      QuotedText (c :: rest)
  | short {c meant : Char} {rest : List Char} : (c, meant) ∈ shortEscapes → QuotedText rest →
      QuotedText ('\\' :: c :: rest)
  | unit {unit : Nat} {digits rest : List Char} : SpellsUnit unit digits → QuotedText rest →
      QuotedText ('\\' :: 'u' :: (digits ++ rest))

section Layout

variable {ι : Type} (spells : ι → List Char → Prop)

inductive Items : List ι → List Char → Prop
  | one {item : ι} {before text after : List Char} : Blank before → spells item text →
      Blank after → Items [item] (before ++ (text ++ after))
  | more {item : ι} {items : List ι} {before text after rest : List Char} : Blank before →
      spells item text → Blank after → Items items rest →
      Items (item :: items) (before ++ (text ++ (after ++ ',' :: rest)))

inductive Enclosed (first last : Char) : List ι → List Char → Prop
  | empty {blanks : List Char} : Blank blanks → Enclosed first last [] (first :: (blanks ++ [last]))
  | items {items : List ι} {text : List Char} : Items spells items text →
      Enclosed first last items (first :: (text ++ [last]))

end Layout

inductive MemberText (key value : List Char) : List Char → Prop
  | colon {before after : List Char} : Blank before → Blank after →
      MemberText key value ('"' :: (key ++ '"' :: (before ++ ':' :: (after ++ value))))

inductive ValueText : List Char → Prop
  | null : ValueText ['n', 'u', 'l', 'l']
  | true : ValueText ['t', 'r', 'u', 'e']
  | false : ValueText ['f', 'a', 'l', 's', 'e']
  | number {text : List Char} : NumberText text → ValueText text
  | string {text : List Char} : QuotedText text → ValueText ('"' :: (text ++ ['"']))
  | list {items : List (List Char)} {text : List Char} : (∀ item ∈ items, ValueText item) →
      Enclosed Eq '[' ']' items text → ValueText text
  | object {members : List (List Char × List Char)} {text : List Char} :
      (∀ member ∈ members, QuotedText member.1) → (∀ member ∈ members, ValueText member.2) →
      Enclosed (fun member => MemberText member.1 member.2) '\x7b' '\x7d' members text →
      ValueText text

inductive StringText : String → List Char → Prop
  | quoted {value : String} {text : List Char} : Spells value.toList text →
      StringText value ('"' :: (text ++ ['"']))

inductive SizeText : UInt64 → List Char → Prop
  | decimal (n : UInt64) : SizeText n (Nat.toDigits 10 n.toNat)

section Composite

variable {α β : Type}

inductive OptionText (spells : α → List Char → Prop) : Option α → List Char → Prop
  | null : OptionText spells none ['n', 'u', 'l', 'l']
  | some {value : α} {text : List Char} : spells value text → OptionText spells (some value) text

def ListText (spells : α → List Char → Prop) : List α → List Char → Prop :=
  Enclosed spells '[' ']'

structure FieldText (α : Type) where
  name : String
  spells : α → List Char → Prop
  absent : Option α

inductive Entry (α β : Type)
  | first (value : α)
  | second (value : β)
  | unknown

def Entry.first? : Entry α β → Option α
  | first value => some value
  | _ => none

def Entry.second? : Entry α β → Option β
  | second value => some value
  | _ => none

inductive EntryText (f : FieldText α) (g : FieldText β) : Entry α β → List Char → Prop
  | first {value : α} {key shown text : List Char} : Spells f.name.toList key →
      f.spells value shown → MemberText key shown text → EntryText f g (.first value) text
  | second {value : β} {key shown text : List Char} : Spells g.name.toList key →
      g.spells value shown → MemberText key shown text → EntryText f g (.second value) text
  | unknown {name : String} {key shown text : List Char} : Spells name.toList key →
      name ≠ f.name → name ≠ g.name → ValueText shown → MemberText key shown text →
      EntryText f g .unknown text

/-- A field has its only value among the entries, or stands there not at all and may be absent. -/
def FieldText.Given (field : FieldText α) (found : List α) (value : α) : Prop :=
  found = [value] ∨ found = [] ∧ field.absent = some value

inductive PlaceText (f : FieldText α) (g : FieldText β) : Entry α β → List Char → Prop
  | first {value : α} {text : List Char} : f.spells value text → PlaceText f g (.first value) text
  | second {value : β} {text : List Char} : g.spells value text →
      PlaceText f g (.second value) text

/-- A record as an object with its members in any order, or as the list of its fields in order,
which may end before a field that may be absent. -/
inductive RecordText (f : FieldText α) (g : FieldText β) : α × β → List Char → Prop
  | object {a : α} {b : β} {entries : List (Entry α β)} {text : List Char} :
      f.Given (entries.filterMap Entry.first?) a → g.Given (entries.filterMap Entry.second?) b →
      Enclosed (EntryText f g) '\x7b' '\x7d' entries text → RecordText f g (a, b) text
  | list {a : α} {b : β} {text : List Char} :
      Enclosed (PlaceText f g) '[' ']' [.first a, .second b] text → RecordText f g (a, b) text
  | short {a : α} {b : β} {text : List Char} : g.absent = some b →
      Enclosed (PlaceText f g) '[' ']' [.first a] text → RecordText f g (a, b) text
  | bare {a : α} {b : β} {text : List Char} : f.absent = some a → g.absent = some b →
      Enclosed (PlaceText f g) '[' ']' [] text → RecordText f g (a, b) text

theorem Enclosed.head {ι : Type} {spells : ι → List Char → Prop} {first last : Char}
    {items : List ι} {text : List Char} (enclosed : Enclosed spells first last items text) :
    text.head? = some first := by
  cases enclosed <;> rfl

theorem StringText.notNull {value : String} {text : List Char} (spelled : StringText value text) :
    text.head? ≠ some 'n' := by
  cases spelled
  simp

theorem ListText.notNull {spells : α → List Char → Prop} {values : List α} {text : List Char}
    (spelled : ListText spells values text) : text.head? ≠ some 'n' := by
  simp [Enclosed.head spelled]

theorem RecordText.notNull {f : FieldText α} {g : FieldText β} {fields : α × β} {text : List Char}
    (spelled : RecordText f g fields text) : text.head? ≠ some 'n' := by
  cases spelled with
  | object _ _ laid | list laid | short _ laid | bare _ _ laid => simp [laid.head]

end Composite

end Winternitz.Json
