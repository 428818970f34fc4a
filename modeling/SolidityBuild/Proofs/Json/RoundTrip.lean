import SolidityBuild.Compiler.Output
import SolidityBuild.Proofs.Json.Number
import SolidityBuild.Proofs.Json.Quoted

/-! # Documents that are printed can be read

A value that stays within the limits of the reader is read from its printed form,
in either layout: the reader gives back the same value, with the same members in
the same order.
-/

namespace SolidityBuild

namespace Json

/-- Values that can be read if at most `depth` levels may nest: integers are not
    too long, numbers are those of the format, and no key is repeated. -/
inductive Fits : Nat → Json → Prop where
  | null {depth} : Fits depth .null
  | bool {depth} (value : Bool) : Fits depth (.bool value)
  | int {depth} {value : Int} (short : (Nat.toDigits 10 value.natAbs).length ≤ digitLimit) :
      Fits depth (.int value)
  | float {depth} {value : Binary64} (normal : value.Normal) : Fits depth (.float value)
  | str {depth} (value : Text) : Fits depth (.str value)
  | arr {depth} {items : List Json} (each : ∀ item ∈ items, Fits depth item) :
      Fits (depth + 1) (.arr items)
  | obj {depth} {members : Members} (unique : members.keys.Nodup)
      (each : ∀ member ∈ members, Fits depth member.2) : Fits (depth + 1) (.obj members)

theorem Fits.mono {depth more : Nat} {value : Json} (fits : Fits depth value)
    (le : depth ≤ more) : Fits more value := by
  induction fits generalizing more with
  | null => exact .null
  | bool value => exact .bool value
  | int short => exact .int short
  | float normal => exact .float normal
  | str value => exact .str value
  | arr each ih =>
    obtain ⟨more, rfl⟩ : ∃ n, more = n + 1 := ⟨more - 1, by omega⟩
    exact .arr fun item member => ih item member (by omega)
  | obj unique each ih =>
    obtain ⟨more, rfl⟩ : ∃ n, more = n + 1 := ⟨more - 1, by omega⟩
    exact .obj unique fun member isMember => ih member isMember (by omega)

theorem Fits.singleton {depth : Nat} {v : Json} (fits : Fits depth v) :
    Fits (depth + 1) (.arr [v]) := by
  apply Fits.arr
  simpa using fits

theorem Fits.single {depth : Nat} {v : Json} (fits : Fits depth v) (key : Text) :
    Fits (depth + 1) (.obj [(key, v)]) := by
  apply Fits.obj
  · simp [Members.keys]
  · simpa using fits

theorem Fits.cons {depth : Nat} {v : Json} {members : Members} {key : Text}
    (rest : Fits (depth + 1) (.obj members)) (fits : Fits depth v) (new : key ∉ members.keys) :
    Fits (depth + 1) (.obj ((key, v) :: members)) := by
  cases rest with
  | obj unique each =>
    constructor
    · exact List.nodup_cons.mpr ⟨new, unique⟩
    · exact List.forall_mem_cons.mpr ⟨fits, each⟩

end Json

theorem Members.put_of_absent {members : Members} {key : Text} (absent : key ∉ members.keys)
    (value : Json) : members.put key value = members ++ [(key, value)] := by
  induction members with
  | nil => rfl
  | cons member members ih =>
    obtain ⟨k, old⟩ := member
    obtain ⟨other, absent⟩ := not_or.mp (mt List.mem_cons.mpr absent)
    rw [put, if_neg (Ne.symm other), ih absent, List.cons_append]

theorem Members.ofPairs_of_nodup {members : Members} (unique : members.keys.Nodup) :
    Members.ofPairs members = members := by
  have collect (before after : Members) (unique : (before ++ after).keys.Nodup) :
      after.foldl (fun members pair => members.put pair.1 pair.2) before = before ++ after := by
    induction after generalizing before with
    | nil => rw [List.foldl_nil, List.append_nil]
    | cons member after ih =>
      have absent : member.1 ∉ before.keys := by
        simp only [keys, List.map_append, List.map_cons, List.nodup_append] at unique
        exact fun member => unique.2.2 _ member _ List.mem_cons_self rfl
      rw [List.foldl_cons, put_of_absent absent, ih _ (by simpa using unique),
        List.append_assoc]
      rfl
  exact collect [] members unique

namespace Json.Reader

/-- The character may begin a value. -/
def Opens (c : Rune) : Prop :=
  isGap c = false ∧ c ≠ ']' ∧ c ≠ '\uFEFF'

theorem ne_of_digit {c d : Rune} (digit : Text.isAsciiDigit c = true)
    (other : Text.isAsciiDigit d = false) : c ≠ d := by
  rintro rfl
  rw [digit] at other
  contradiction

theorem Opens.of_digit {c : Rune} (digit : Text.isAsciiDigit c = true) : Opens c := by
  refine ⟨?_, ne_of_digit digit rfl, ne_of_digit digit rfl⟩
  simp only [isGap, ne_of_digit digit (d := ' ') rfl, ne_of_digit digit (d := '\t') rfl,
    ne_of_digit digit (d := '\n') rfl, ne_of_digit digit (d := '\r') rfl, decide_false,
    Bool.or_self]

theorem decimal_opens (n : Nat) (rest : List Rune) :
    ∃ c later, Text.decimal n ++ rest = c :: later ∧ Text.isAsciiDigit c = true := by
  cases shape : Text.decimal n with
  | nil => exact absurd shape Text.decimal_ne_nil
  | cons c digits =>
    exact ⟨c, digits ++ rest, rfl, Text.isAsciiDigit_decimal (shape ▸ List.mem_cons_self)⟩

theorem skipGap_cons {c : Rune} (visible : isGap c = false) (text : List Rune) :
    skipGap (c :: text) = c :: text := by
  rw [skipGap, List.dropWhile_cons_of_neg (by simp [visible])]

theorem skipGap_lineBreak (layout : Layout) (level : Nat) {c : Rune} (visible : isGap c = false)
    (text : List Rune) : skipGap (layout.lineBreak level ++ c :: text) = c :: text := by
  cases layout with
  | compact => exact skipGap_cons visible text
  | indented =>
    have blanks : ∀ c ∈ .char '\n' :: List.replicate (4 * level) (Rune.char ' '),
        isGap c = true := by
      intro c member
      rcases List.mem_cons.mp member with rfl | member
      · rfl
      · rw [List.eq_of_mem_replicate member]
        rfl
    rw [skipGap, Layout.lineBreak, List.dropWhile_append_of_pos blanks]
    exact skipGap_cons visible text

theorem endsNumber_lineBreak (layout : Layout) (level : Nat) {text : List Rune}
    (ends : EndsNumber text) : EndsNumber (layout.lineBreak level ++ text) := by
  cases layout with
  | compact => exact ends
  | indented =>
    intro c first
    obtain rfl : '\n' = c := Option.some.inj first
    decide

theorem length_le_flatMap {α β : Type} {f : α → List β} {list : List α}
    (some : ∀ a ∈ list, 0 < (f a).length) : list.length ≤ (list.flatMap f).length := by
  induction list with
  | nil => exact Nat.le_refl 0
  | cons a list ih =>
    have first := some a List.mem_cons_self
    have later := ih fun b member => some b (List.mem_cons_of_mem a member)
    rw [List.flatMap_cons, List.length_append, List.length_cons]
    omega

theorem length_flatMap_of_mem {α β : Type} (f : α → List β) {list : List α} {a : α}
    (member : a ∈ list) : (f a).length ≤ (list.flatMap f).length := by
  induction list with
  | nil => cases member
  | cons b list ih =>
    rw [List.flatMap_cons, List.length_append]
    rcases List.mem_cons.mp member with rfl | member
    · omega
    · have := ih member
      omega

section

variable {α : Type} {item : Reader α} {close : Rune} {text : α → List Rune}
  (layout : Layout) (level : Nat)

/-- Items that are read from their texts are read from the joined text. -/
theorem items_render (closes : close = ']' ∨ close = '}') (inner : Nat) (first : α)
    (others : List α)
    (reads : ∀ a ∈ first :: others, ∀ rest, EndsNumber rest → item (text a ++ rest) = .ok (a, rest))
    (opens : ∀ a ∈ first :: others, ∃ c later, text a = c :: later ∧ isGap c = false)
    {bound : Nat} (enough : others.length < bound) (rest : List Rune) :
    items item close bound (text first ++
        ((others.flatMap fun a => .char ',' :: (layout.lineBreak inner ++ text a)) ++
          (layout.lineBreak level ++ close :: rest))) = .ok (first :: others, rest) := by
  have visible : isGap close = false := by
    rcases closes with rfl | rfl <;> rfl
  have stops : EndsNumber (close :: rest) := by
    rcases closes with rfl | rfl <;>
    · intro c head
      obtain rfl := Option.some.inj head
      decide
  induction others generalizing first bound with
  | nil =>
    obtain ⟨bound, rfl⟩ : ∃ n, bound = n + 1 := ⟨bound - 1, by omega⟩
    have read := reads first List.mem_cons_self (layout.lineBreak level ++ close :: rest)
      (endsNumber_lineBreak layout level stops)
    rw [List.flatMap_nil, List.nil_append, items, read]
    simp only [bind, Except.bind, skipGap_lineBreak layout level visible, if_true]
  | cons second others ih =>
    obtain ⟨bound, rfl⟩ : ∃ n, bound = n + 1 := ⟨bound - 1, by omega⟩
    obtain ⟨c, later, shape, seen⟩ := opens second (by simp)
    have next := ih second (fun a member => reads a (List.mem_cons_of_mem _ member))
      (fun a member => opens a (List.mem_cons_of_mem _ member)) (by simpa using enough)
    generalize tail : ((others.flatMap fun a => .char ',' :: (layout.lineBreak inner ++ text a)) ++
      (layout.lineBreak level ++ close :: rest)) = remaining at next
    have read := reads first List.mem_cons_self
      (.char ',' :: (layout.lineBreak inner ++ text second ++ remaining)) (fun c head => by
        obtain rfl := Option.some.inj head
        decide)
    rw [List.flatMap_cons, List.append_assoc, tail, List.cons_append, items, read]
    have comma : ',' ≠ close := by
      rcases closes with rfl | rfl <;> decide
    have skipped : skipGap (layout.lineBreak inner ++ text second ++ remaining) =
        text second ++ remaining := by
      rw [shape, List.append_assoc]
      exact skipGap_lineBreak layout inner seen _
    simp only [bind, Except.bind, skipGap_cons (show isGap ',' = false from rfl), if_neg comma,
      if_true, skipped, next]

def inside (layout : Layout) (level : Nat) (text : α → List Rune) (first : α) (others : List α) :
    List Rune :=
  layout.lineBreak (level + 1) ++ (text first ++
    ((others.flatMap fun a => .char ',' :: (layout.lineBreak (level + 1) ++ text a)) ++
      layout.lineBreak level))

/-- What stands in brackets is read as it is printed, if every item is. -/
theorem enclosed_render (closes : close = ']' ∨ close = '}') (first : α) (others : List α)
    {bound : Nat} (enough : (inside layout level text first others).length < bound)
    (reads : ∀ a ∈ first :: others, (text a).length ≤ bound →
      ∀ rest, EndsNumber rest → item (text a ++ rest) = .ok (a, rest))
    (opens : ∀ a ∈ first :: others, ∃ c later, text a = c :: later ∧ isGap c = false ∧ c ≠ close)
    (rest : List Rune) :
    enclosed item close bound (inside layout level text first others ++ close :: rest) =
      .ok (first :: others, rest) := by
  simp only [inside, List.length_append] at enough
  have few : others.length ≤
      (others.flatMap fun a => .char ',' :: (layout.lineBreak (level + 1) ++ text a)).length :=
    length_le_flatMap fun _ _ => Nat.succ_pos _
  have room : ∀ a ∈ first :: others, (text a).length ≤ bound := by
    intro a member
    rcases List.mem_cons.mp member with rfl | member
    · omega
    · have := length_flatMap_of_mem
        (fun a => .char ',' :: (layout.lineBreak (level + 1) ++ text a)) member
      simp only [List.length_cons, List.length_append] at this
      omega
  have short : others.length < bound := by omega
  have listed := items_render layout level closes (level + 1) first others
    (fun a member => reads a member (room a member))
    (fun a member => by
      obtain ⟨c, later, shape, seen, -⟩ := opens a member
      exact ⟨c, later, shape, seen⟩)
    short rest
  obtain ⟨c, later, shape, seen, other⟩ := opens first List.mem_cons_self
  simp only [inside, shape, List.cons_append, List.append_assoc] at listed ⊢
  rw [enclosed, skipGap_lineBreak layout (level + 1) seen]
  simp only [if_neg other]
  exact listed

end

theorem value_scalar (bound depth : Nat) {c : Rune} (quote : c ≠ '"') (bracket : c ≠ '[')
    (brace : c ≠ '{') (text : List Rune) : value bound depth (c :: text) = scalar (c :: text) := by
  cases depth with
  | zero => simp [value, quote, bracket, brace]
  | succ depth => simp [value, quote, bracket, brace]

theorem named?_digit {c : Rune} (digit : Text.isAsciiDigit c = true) (text : List Rune) :
    named? (c :: text) = none ∧ named? (.char '-' :: c :: text) = none := by
  have other {d : Rune} (outside : Text.isAsciiDigit d = false) : (d == c) = false :=
    beq_eq_false_iff_ne.mpr (ne_of_digit digit outside).symm
  constructor
  · simp [named?, named, String.runes_eq, List.isPrefixOf?, other (d := 'n') rfl,
      other (d := 't') rfl,
      other (d := 'f') rfl, other (d := 'N') rfl, other (d := 'I') rfl, other (d := '-') rfl]
  · simp [named?, named, String.runes_eq, List.isPrefixOf?, other (d := 'I') rfl]

theorem scalar_signed (negative : Bool) {c : Rune} (digit : Text.isAsciiDigit c = true)
    (text : List Rune) :
    scalar (signText negative ++ c :: text) = number (signText negative ++ c :: text) := by
  cases negative with
  | true =>
    rw [scalar, show named? (signText true ++ c :: text) = none from (named?_digit digit text).2]
  | false =>
    rw [scalar, show named? (signText false ++ c :: text) = none from (named?_digit digit text).1]

theorem render_digit {x : Binary64.Decimal} (rest : List Rune) :
    ∃ c later, x.render ++ rest = c :: later ∧ Text.isAsciiDigit c = true := by
  have some : ∃ c later, Text.decimal x.digits = c :: later ∧ Text.isAsciiDigit c = true := by
    obtain ⟨c, later, shape, digit⟩ := decimal_opens x.digits []
    exact ⟨c, later, by rwa [List.append_nil] at shape, digit⟩
  obtain ⟨c, later, shape, digit⟩ := some
  unfold Binary64.Decimal.render
  dsimp only
  rw [shape]
  split
  · split
    · exact ⟨'0', _, rfl, rfl⟩
    · split
      · exact ⟨c, _, rfl, digit⟩
      · exact ⟨c, _, by rw [List.take_succ_cons]; rfl, digit⟩
  · exact ⟨c, _, rfl, digit⟩

theorem renderInt_signed (value : Int) (rest : List Rune) :
    ∃ negative c later, renderInt value ++ rest = signText negative ++ c :: later ∧
      Text.isAsciiDigit c = true := by
  obtain ⟨c, later, shape, digit⟩ := decimal_opens value.natAbs rest
  refine ⟨decide (value < 0), c, later, ?_, digit⟩
  rw [renderInt, List.append_assoc, shape, signText]
  simp

theorem renderFinite_signed (negative : Bool) (significand : Nat) (exponent : Int)
    (rest : List Rune) :
    ∃ c later, renderFloat (.finite negative significand exponent) ++ rest =
      signText negative ++ c :: later ∧ Text.isAsciiDigit c = true := by
  rw [renderFloat, Binary64.renderFinite, signText, List.append_assoc]
  by_cases zero : significand = 0
  · exact ⟨'0', _, by rw [if_pos zero]; rfl, rfl⟩
  · obtain ⟨c, later, shape, digit⟩ := render_digit (x := Binary64.shortest significand exponent)
      rest
    exact ⟨c, later, by rw [if_neg zero, shape], digit⟩

theorem value_signed (bound depth : Nat) (negative : Bool) {c : Rune}
    (digit : Text.isAsciiDigit c = true) (text : List Rune) :
    value bound depth (signText negative ++ c :: text) =
      number (signText negative ++ c :: text) := by
  rw [← scalar_signed negative digit]
  cases negative with
  | true => exact value_scalar bound depth (by decide) (by decide) (by decide) _
  | false =>
    exact value_scalar bound depth (ne_of_digit digit rfl) (ne_of_digit digit rfl)
      (ne_of_digit digit rfl) _

theorem signed_opens (negative : Bool) {c : Rune} (digit : Text.isAsciiDigit c = true)
    (text : List Rune) : ∃ d later, signText negative ++ c :: text = d :: later ∧ Opens d := by
  cases negative with
  | true => exact ⟨'-', _, rfl, by simp [Opens, isGap]⟩
  | false => exact ⟨c, text, rfl, .of_digit digit⟩

theorem render_opens (layout : Layout) (level : Nat) (v : Json) :
    ∃ c later, v.render layout level = c :: later ∧ Opens c := by
  have open_ {c : Rune} (plain : isGap c = false ∧ c ≠ ']' ∧ c ≠ '\uFEFF') {later : List Rune} :
      ∃ d later', c :: later = d :: later' ∧ Opens d := ⟨c, later, rfl, plain⟩
  cases v with
  | null => exact open_ (by decide)
  | bool value => cases value <;> exact open_ (by decide)
  | int value =>
    obtain ⟨negative, c, later, shape, digit⟩ := renderInt_signed value []
    rw [List.append_nil] at shape
    rw [render, shape]
    exact signed_opens negative digit later
  | float value =>
    cases value with
    | finite negative significand exponent =>
      obtain ⟨c, later, shape, digit⟩ := renderFinite_signed negative significand exponent []
      rw [List.append_nil] at shape
      rw [render, shape]
      exact signed_opens negative digit later
    | infinity negative => cases negative <;> exact open_ (by decide)
    | nan => exact open_ (by decide)
  | str value => exact open_ (by decide)
  | arr items => cases items <;> exact open_ (by decide)
  | obj members => cases members <;> exact open_ (by decide)

theorem length_lt_renderString (text : List Rune) : text.length < (renderString text).length := by
  have each : ∀ c ∈ text, 0 < (escapeChar c).length := by
    intro c _
    rcases escapeChar_cases c with ⟨letter, shape, -⟩ | ⟨shape, -⟩ | ⟨shape, -⟩ <;>
      simp [shape]
  have := length_le_flatMap each
  simp only [renderString, List.length_append, List.length_cons]
  omega

theorem stringBody_renderString (opened : Nat) {text : List Rune} {bound : Nat}
    (enough : (renderString text).length ≤ bound) (rest : List Rune) :
    stringBody opened bound (text.flatMap escapeChar ++ .char '"' :: rest) = .ok (text, rest) :=
  stringBody_render opened text rest
    (Nat.lt_of_lt_of_le (length_lt_renderString text) enough)

theorem renderItems_eq (layout : Layout) (level : Nat) (items : List Json) :
    renderItems layout level items =
      items.flatMap fun item =>
        .char ',' :: (layout.lineBreak level ++ item.render layout level) := by
  induction items with
  | nil => rfl
  | cons item items ih => simp [renderItems, ih]

def memberText (layout : Layout) (level : Nat) (member : Text × Json) : List Rune :=
  renderString member.1.toList ++ (layout.colon ++ member.2.render layout level)

theorem renderMembers_eq (layout : Layout) (level : Nat) (members : Members) :
    renderMembers layout level members =
      members.flatMap fun member =>
        .char ',' :: (layout.lineBreak level ++ memberText layout level member) := by
  induction members with
  | nil => rfl
  | cons member members ih => simp [renderMembers, memberText, ih]

theorem member_render {reader : Reader Json} {bound : Nat} {layout : Layout} {level : Nat}
    {item : Text × Json} {rest : List Rune}
    (enough : (memberText layout level item).length ≤ bound)
    (reads : reader (item.2.render layout level ++ rest) = .ok (item.2, rest)) :
    member reader bound (memberText layout level item ++ rest) = .ok (item, rest) := by
  obtain ⟨key, v⟩ := item
  have room : (renderString key.toList).length ≤ bound := by
    rw [memberText, List.length_append] at enough
    exact Nat.le_trans (Nat.le_add_right _ _) enough
  obtain ⟨c, later, shape, seen, -⟩ := render_opens layout level v
  have skipped : skipGap (layout.colon ++ (v.render layout level ++ rest)) =
      .char ':' :: (layout.colon.drop 1 ++ (v.render layout level ++ rest)) := by
    cases layout <;> exact skipGap_cons rfl _
  have skipped' : skipGap (layout.colon.drop 1 ++ (v.render layout level ++ rest)) =
      v.render layout level ++ rest := by
    rw [shape]
    cases layout with
    | compact => exact skipGap_cons seen _
    | indented => exact skipGap_cons seen _
  have text : memberText layout level (key, v) ++ rest =
      .char '"' :: (key.toList.flatMap escapeChar ++
      .char '"' :: (layout.colon ++ (v.render layout level ++ rest))) := by
    simp [memberText, renderString]
  rw [text, member]
  simp only [stringBody_renderString _ room, bind, Except.bind, skipped, skipped', reads,
    Text.ofList_toList]

/-- The value is read from its text with up to `depth` levels, whatever follows that
    does not go on with a number. -/
def ReadsBack (layout : Layout) (depth : Nat) (v : Json) : Prop :=
  ∀ (level bound : Nat) (rest : List Rune), (v.render layout level).length ≤ bound →
    EndsNumber rest → value bound depth (v.render layout level ++ rest) = .ok (v, rest)

theorem readsBack_arr {layout : Layout} {depth : Nat} {items : List Json}
    (each : ∀ item ∈ items, ReadsBack layout depth item) :
    ReadsBack layout (depth + 1) (.arr items) := by
  intro level bound rest enough ends
  cases items with
  | nil => rfl
  | cons first others =>
    have text : Json.render layout level (.arr (first :: others)) =
        .char '[' ::
          (inside layout level (fun item => item.render layout (level + 1)) first others ++
          [Rune.char ']']) := by
      simp [render, renderItems_eq, inside]
    have room := congrArg List.length text
    rw [List.length_cons, List.length_append, List.length_singleton] at room
    have read : enclosed (value bound depth) ']' bound
        (inside layout level (fun item => item.render layout (level + 1)) first others ++
          .char ']' :: rest) = .ok (first :: others, rest) := by
      refine enclosed_render layout level (.inl rfl) first others (by omega) ?_ ?_ rest
      · exact fun item member enough rest => each item member (level + 1) bound rest enough
      · intro item _
        obtain ⟨c, later, shape, seen, other, -⟩ := render_opens layout (level + 1) item
        exact ⟨c, later, shape, seen, other⟩
    rw [text, List.cons_append, List.append_assoc, value]
    simp only [List.singleton_append, read, bind, Except.bind]

theorem readsBack_obj {layout : Layout} {depth : Nat} {members : Members}
    (unique : members.keys.Nodup) (each : ∀ member ∈ members, ReadsBack layout depth member.2) :
    ReadsBack layout (depth + 1) (.obj members) := by
  intro level bound rest enough ends
  cases members with
  | nil => rfl
  | cons first others =>
    have text : Json.render layout level (.obj (first :: others)) =
        .char '{' :: (inside layout level (memberText layout (level + 1)) first others ++
          [Rune.char '}']) := by
      simp [render, renderMembers_eq, inside, memberText]
    have room := congrArg List.length text
    rw [List.length_cons, List.length_append, List.length_singleton] at room
    have small : (inside layout level (memberText layout (level + 1)) first others).length <
        bound := by omega
    have read : enclosed (member (value bound depth) bound) '}' bound
        (inside layout level (memberText layout (level + 1)) first others ++ .char '}' :: rest) =
          .ok (first :: others, rest) := by
      refine enclosed_render layout level (.inr rfl) first others small ?_ ?_ rest
      · intro item present enough rest ends
        refine member_render enough (each item present (level + 1) bound rest ?_ ends)
        simp only [memberText, List.length_append] at enough
        omega
      · exact fun item _ => ⟨'"', _, rfl, rfl, by decide⟩
    rw [text, List.cons_append, List.append_assoc, value]
    simp only [List.singleton_append, read, bind, Except.bind, Members.ofPairs_of_nodup unique]

/-- A printed value is read as this value, whatever follows that does not go on
    with a number. -/
theorem value_render {depth : Nat} {v : Json} (fits : Fits depth v) (layout : Layout) :
    ReadsBack layout depth v := by
  induction fits with
  | null =>
    intro level bound rest enough ends
    exact value_scalar bound _ (by decide) (by decide) (by decide) _
  | bool value =>
    intro level bound rest enough ends
    cases value <;> exact value_scalar bound _ (by decide) (by decide) (by decide) _
  | @int depth n short =>
    intro level bound rest enough ends
    obtain ⟨negative, c, later, shape, digit⟩ := renderInt_signed n rest
    have read := number_int short ends
    rw [shape] at read
    rw [render, shape, value_signed bound depth negative digit, read]
  | @float depth x normal =>
    intro level bound rest enough ends
    cases x with
    | finite negative significand exponent =>
      obtain ⟨c, later, shape, digit⟩ := renderFinite_signed negative significand exponent rest
      have read := number_float normal ends
      rw [shape] at read
      rw [render, shape, value_signed bound depth negative digit, read]
    | infinity negative =>
      cases negative <;> exact value_scalar bound _ (by decide) (by decide) (by decide) _
    | nan => exact value_scalar bound _ (by decide) (by decide) (by decide) _
  | @str depth text =>
    intro level bound rest enough ends
    rw [render] at enough ⊢
    rw [renderString, List.append_assoc, List.cons_append]
    cases depth <;>
      simp only [value, List.singleton_append, stringBody_renderString _ enough, bind, Except.bind,
        Text.ofList_toList]
  | arr _ ih => exact readsBack_arr ih
  | obj unique _ ih => exact readsBack_obj unique ih

theorem document_render {v : Json} (fits : Fits nestingLimit v) (layout : Layout) :
    document (v.render layout 0) = .ok v := by
  obtain ⟨c, later, shape, seen, -⟩ := render_opens layout 0 v
  have read : value (v.render layout 0).length nestingLimit (v.render layout 0 ++ []) =
      .ok (v, []) := value_render fits layout 0 _ [] (Nat.le_refl _) nofun
  have skipped : skipGap (v.render layout 0) = v.render layout 0 := by
    rw [shape]
    exact skipGap_cons seen later
  rw [List.append_nil] at read
  simp only [document, skipped, read, bind, Except.bind]
  rfl

end Json.Reader

namespace Json

/-- Printing and reading again gives back the same value, in either layout. -/
theorem parse_print {v : Json} (fits : Fits nestingLimit v) (layout : Layout) :
    parse (v.print layout) = .ok v := by
  obtain ⟨c, later, shape, -, -, mark⟩ := Reader.render_opens layout 0 v
  have read := Reader.document_render fits layout
  rw [parse, print, Text.toList_ofList]
  split
  · rename_i same
    rw [shape] at same
    exact absurd (List.cons.inj same).1 mark
  · rw [read]

theorem read_print {v : Json} (fits : Fits nestingLimit v) (layout : Layout) :
    read (v.print layout) = .ok v := by
  rw [read, parse_print fits layout]
  rfl

end Json

end SolidityBuild
