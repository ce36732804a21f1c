import Mathlib.Data.List.Basic
import NextWord.Filter.Token

/-!
# Sentences of filters

A filter is one call or more, chained by colons. A call names an operator, a field and one value, or
any number of values from one on where the operator allows that; a value is a raw word, or stands
between marks. A row of tokens begins a sentence if something can be put behind it that makes it
one. Read from left to right, such a row leads from place to place in a sentence; every place says
what is still owed there, and something can always be put behind.
-/

namespace NextWord.Filter

inductive Quotation
  | single
  | double
  deriving DecidableEq, Repr

namespace Quotation

def mark : Quotation → TokenKind
  | .single => .singleQuote
  | .double => .doubleQuote

def contents : Quotation → TokenKind
  | .single => .singleQuotedContents
  | .double => .doubleQuotedContents

def mode : Quotation → Mode
  | .single => .singleQuote
  | .double => .doubleQuote

end Quotation

/-- A value: a raw word, or marks with or without contents. -/
inductive IsValue : List TokenKind → Prop
  | raw : IsValue [.rawLiteral]
  | empty (q : Quotation) : IsValue [q.mark, q.mark]
  | quoted (q : Quotation) : IsValue [q.mark, q.contents, q.mark]

/-- Values, at least one, with a comma before each. -/
inductive IsValues : List TokenKind → Prop
  | one {value : List TokenKind} (h : IsValue value) : IsValues (.comma :: value)
  | more {value values : List TokenKind} (h : IsValue value) (hs : IsValues values) :
      IsValues (.comma :: (value ++ values))

/-- A call of an operator with a field and its values. -/
inductive IsCall : List TokenKind → Prop
  | binary {value : List TokenKind} (h : IsValue value) :
      IsCall (.binaryOp :: .rawLiteral :: .comma :: (value ++ [.rightParen]))
  | vararg {values : List TokenKind} (h : IsValues values) :
      IsCall (.varargOp :: .rawLiteral :: (values ++ [.rightParen]))

/-- Calls, at least one, with a colon between any two. -/
inductive IsSentence : List TokenKind → Prop
  | call {call : List TokenKind} (h : IsCall call) : IsSentence call
  | chain {call sentence : List TokenKind} (h : IsCall call) (hs : IsSentence sentence) :
      IsSentence (call ++ .chain :: sentence)

/-- Whether something can be put behind a row that makes it a sentence. -/
def Begins (kinds : List TokenKind) : Prop :=
  ∃ rest, IsSentence (kinds ++ rest)

/-- Places in a sentence, named for what stands there next; from the operator on it is known whether
the call may have many values. -/
inductive Place
  | operator
  | field (many : Bool)
  | separator (many : Bool)
  | value (many : Bool)
  | opened (many : Bool) (q : Quotation)
  | filled (many : Bool) (q : Quotation)
  | ending (many : Bool)
  | closed
  deriving DecidableEq, Repr

inductive Step : Place → TokenKind → Place → Prop
  | binary : Step .operator .binaryOp (.field false)
  | vararg : Step .operator .varargOp (.field true)
  | field {many : Bool} : Step (.field many) .rawLiteral (.separator many)
  | separator {many : Bool} : Step (.separator many) .comma (.value many)
  | raw {many : Bool} : Step (.value many) .rawLiteral (.ending many)
  | quote {many : Bool} {q : Quotation} {kind : TokenKind} (hkind : kind = q.mark) :
      Step (.value many) kind (.opened many q)
  | contents {many : Bool} {q : Quotation} {kind : TokenKind} (hkind : kind = q.contents) :
      Step (.opened many q) kind (.filled many q)
  | unquoteEmpty {many : Bool} {q : Quotation} {kind : TokenKind} (hkind : kind = q.mark) :
      Step (.opened many q) kind (.ending many)
  | unquote {many : Bool} {q : Quotation} {kind : TokenKind} (hkind : kind = q.mark) :
      Step (.filled many q) kind (.ending many)
  | paren {many : Bool} : Step (.ending many) .rightParen .closed
  | comma : Step (.ending true) .comma (.value true)
  | chain : Step .closed .chain .operator

inductive Leads : Place → List TokenKind → Place → Prop
  | nil {place : Place} : Leads place [] place
  | cons {place next last : Place} {kind : TokenKind} {kinds : List TokenKind}
      (hstep : Step place kind next) (h : Leads next kinds last) : Leads place (kind :: kinds) last

namespace Leads

variable {place next last : Place} {kind : TokenKind} {kinds more : List TokenKind}

theorem append (h : Leads place kinds next) (hmore : Leads next more last) :
    Leads place (kinds ++ more) last := by
  induction h with
  | nil => exact hmore
  | cons hstep _ ih => exact .cons hstep (ih hmore)

theorem exists_of_append (h : Leads place (kinds ++ more) last) :
    ∃ next, Leads place kinds next ∧ Leads next more last := by
  induction kinds generalizing place with
  | nil => exact ⟨place, .nil, h⟩
  | cons kind kinds ih =>
    cases h with
    | cons hstep h =>
      obtain ⟨next, hkinds, hmore⟩ := ih h
      exact ⟨next, .cons hstep hkinds, hmore⟩

theorem of_step (h : Step place kind next) : Leads place [kind] next :=
  .cons h .nil

theorem concat (h : Leads place kinds next) (hstep : Step next kind last) :
    Leads place (kinds ++ [kind]) last :=
  h.append (of_step hstep)

theorem exists_of_concat (h : Leads place (kinds ++ [kind]) last) :
    ∃ next, Leads place kinds next ∧ Step next kind last := by
  obtain ⟨next, hkinds, hkind⟩ := h.exists_of_append
  cases hkind with
  | cons hstep hnil =>
    cases hnil
    exact ⟨next, hkinds, hstep⟩

end Leads

section Sentences

variable {kinds : List TokenKind}

theorem leads_of_isValue {many : Bool} (h : IsValue kinds) :
    Leads (.value many) kinds (.ending many) := by
  cases h with
  | raw => exact .of_step .raw
  | empty q => exact .cons (.quote rfl) (.of_step (.unquoteEmpty rfl))
  | quoted q => exact .cons (.quote rfl) (.cons (.contents rfl) (.of_step (.unquote rfl)))

theorem leads_of_isValues (h : IsValues kinds) {place : Place}
    (hplace : Step place .comma (.value true)) : Leads place kinds (.ending true) := by
  induction h generalizing place with
  | one h => exact .cons hplace (leads_of_isValue h)
  | more h _ ih => exact .cons hplace ((leads_of_isValue h).append (ih .comma))

theorem leads_of_isCall (h : IsCall kinds) : Leads .operator kinds .closed := by
  cases h with
  | binary h =>
    have hvalue : Leads (.value false) _ .closed := (leads_of_isValue h).concat .paren
    exact .cons .binary (.cons .field (.cons .separator hvalue))
  | vararg h =>
    have hvalues := (leads_of_isValues h .separator).concat .paren
    exact .cons .vararg (.cons .field hvalues)

theorem leads_of_isSentence (h : IsSentence kinds) : Leads .operator kinds .closed := by
  induction h with
  | call h => exact leads_of_isCall h
  | chain h _ ih => exact (leads_of_isCall h).append (.cons .chain ih)

end Sentences

section Owed

/-- What may follow a call: nothing, or a colon and a sentence. -/
def Chained (kinds : List TokenKind) : Prop :=
  kinds = [] ∨ ∃ sentence, IsSentence sentence ∧ kinds = .chain :: sentence

/-- What may follow a value: the end of the call, and before it more values if there may be many. -/
def Ended (many : Bool) (kinds : List TokenKind) : Prop :=
  ∃ values rest, (values = [] ∨ many = true ∧ IsValues values) ∧ Chained rest ∧
    kinds = values ++ .rightParen :: rest

def ValueGoesOn (many : Bool) (start kinds : List TokenKind) : Prop :=
  ∃ value rest, IsValue (start ++ value) ∧ Ended many rest ∧ kinds = value ++ rest

def Owes : Place → List TokenKind → Prop
  | .operator, kinds => IsSentence kinds
  | .field many, kinds => ∃ rest, ValueGoesOn many [] rest ∧ kinds = .rawLiteral :: .comma :: rest
  | .separator many, kinds => ∃ rest, ValueGoesOn many [] rest ∧ kinds = .comma :: rest
  | .value many, kinds => ValueGoesOn many [] kinds
  | .opened many q, kinds => ValueGoesOn many [q.mark] kinds
  | .filled many q, kinds => ValueGoesOn many [q.mark, q.contents] kinds
  | .ending many, kinds => Ended many kinds
  | .closed, kinds => Chained kinds

theorem isSentence_append {call rest : List TokenKind} (h : IsCall call) (hrest : Chained rest) :
    IsSentence (call ++ rest) := by
  rcases hrest with rfl | ⟨sentence, hsentence, rfl⟩
  · rw [List.append_nil]
    exact .call h
  · exact .chain h hsentence

theorem isSentence_of_field {many : Bool} {kinds : List TokenKind} (h : Owes (.field many) kinds) :
    IsSentence ((if many then .varargOp else .binaryOp) :: kinds) := by
  obtain ⟨-, ⟨value, -, hvalue, ⟨values, rest, hvalues, hrest, rfl⟩, rfl⟩, rfl⟩ := h
  rcases hvalues with rfl | ⟨rfl, hvalues⟩
  · cases many with
    | false => simpa using isSentence_append (.binary hvalue) hrest
    | true => simpa using isSentence_append (.vararg (.one hvalue)) hrest
  · simpa using isSentence_append (.vararg (.more hvalue hvalues)) hrest

theorem ValueGoesOn.cons {many : Bool} {start kinds : List TokenKind} {kind : TokenKind}
    (h : ValueGoesOn many (start ++ [kind]) kinds) : ValueGoesOn many start (kind :: kinds) := by
  obtain ⟨value, rest, hvalue, hrest, rfl⟩ := h
  exact ⟨kind :: value, rest, by simpa using hvalue, hrest, rfl⟩

theorem ValueGoesOn.of_ended {many : Bool} {start kinds : List TokenKind} (hvalue : IsValue start)
    (h : Ended many kinds) : ValueGoesOn many start kinds :=
  ⟨[], kinds, by simpa using hvalue, h, rfl⟩

/-- A token pays what the place before it owes more than the place behind it. -/
theorem Step.owes {place next : Place} {kind : TokenKind} (hstep : Step place kind next)
    {kinds : List TokenKind} (h : Owes next kinds) : Owes place (kind :: kinds) := by
  cases hstep with
  | binary => exact isSentence_of_field h
  | vararg => exact isSentence_of_field h
  | field =>
    obtain ⟨rest, hrest, rfl⟩ := h
    exact ⟨rest, hrest, rfl⟩
  | separator => exact ⟨kinds, h, rfl⟩
  | raw => exact ValueGoesOn.cons (.of_ended .raw h)
  | @quote _ q _ hkind =>
    subst hkind
    exact ValueGoesOn.cons h
  | @contents _ q _ hkind =>
    subst hkind
    exact ValueGoesOn.cons h
  | @unquoteEmpty _ q _ hkind =>
    subst hkind
    exact ValueGoesOn.cons (.of_ended (.empty q) h)
  | @unquote _ q _ hkind =>
    subst hkind
    exact ValueGoesOn.cons (.of_ended (.quoted q) h)
  | paren => exact ⟨[], kinds, .inl rfl, h, rfl⟩
  | comma =>
    obtain ⟨value, rest, hvalue, ⟨values, rest, hvalues, hrest, rfl⟩, rfl⟩ := h
    rcases hvalues with rfl | ⟨-, hvalues⟩
    · exact ⟨.comma :: value, rest, .inr ⟨rfl, .one hvalue⟩, hrest, by simp⟩
    · exact ⟨.comma :: (value ++ values), rest, .inr ⟨rfl, .more hvalue hvalues⟩, hrest, by simp⟩
  | chain => exact .inr ⟨kinds, h, rfl⟩

/-- What leads to the end of a call pays all that is owed. -/
theorem owes_of_leads {place : Place} {kinds : List TokenKind} (h : Leads place kinds .closed) :
    Owes place kinds := by
  generalize hlast : Place.closed = last at h
  induction h with
  | nil =>
    subst hlast
    exact .inl rfl
  | cons hstep _ ih => exact hstep.owes (ih hlast)

end Owed

/-- From every place something leads to the end of a call. -/
theorem exists_leads_closed (place : Place) : ∃ kinds, Leads place kinds .closed := by
  have hending (many : Bool) : Leads (.ending many) [.rightParen] .closed := .of_step .paren
  have hvalue (many : Bool) : Leads (.value many) [.rawLiteral, .rightParen] .closed :=
    .cons .raw (hending many)
  have hfield (many : Bool) :
      Leads (.field many) [.rawLiteral, .comma, .rawLiteral, .rightParen] .closed :=
    .cons .field (.cons .separator (hvalue many))
  cases place with
  | operator => exact ⟨_, .cons .binary (hfield false)⟩
  | field many => exact ⟨_, hfield many⟩
  | separator many => exact ⟨_, .cons .separator (hvalue many)⟩
  | value many => exact ⟨_, hvalue many⟩
  | opened many q => exact ⟨_, .cons (.unquoteEmpty rfl) (hending many)⟩
  | filled many q => exact ⟨_, .cons (.unquote rfl) (hending many)⟩
  | ending many => exact ⟨_, hending many⟩
  | closed => exact ⟨[], .nil⟩

/-- A row begins a sentence exactly if it leads to some place in one. -/
theorem begins_iff {kinds : List TokenKind} :
    Begins kinds ↔ ∃ place, Leads .operator kinds place := by
  constructor
  · rintro ⟨rest, h⟩
    obtain ⟨place, hplace, -⟩ := (leads_of_isSentence h).exists_of_append
    exact ⟨place, hplace⟩
  · rintro ⟨place, h⟩
    obtain ⟨rest, hrest⟩ := exists_leads_closed place
    exact ⟨rest, owes_of_leads (h.append hrest)⟩

end NextWord.Filter
