import Stubsmith.Proofs.Syntax.Places
import Stubsmith.Proofs.Syntax.Words

/-!
# The names of classes

The grammar has an identifier in the name place of a class, and an identifier is one word. So the
name of a class is a word as it is spelled in the text.

## Main definitions

* `SpelledWords` — the words among some tokens are spelled as words.

## Main results

* `Rule.Derives.identifier` — an identifier is one word.
* `Walk.forall_visit` — what holds of every class that is declared holds of every class found.
* `isWord_of_mem_classes` — the name of a class of a source text is a word.
-/

namespace Stubsmith.Syntax

variable {known : Token → Prop}

/-- The words among some tokens are spelled as words. -/
def SpelledWords (known : Token → Prop) : Prop :=
  ∀ token, known token → ∀ keyword, token.kind = .word keyword → IsWord token.text

/-! ## Identifiers -/

/-- A form of a single part that asks for its symbol once, or at most once, is read in one
step. -/
theorem Reads.single {p : Part} (once : p.times = .once ∨ p.times = .optional) {rest : Form}
    {trees : List Tree} (reads : Reads known [p] rest trees) :
    rest = [p] ∧ trees = [] ∨ rest = [] ∧
      ((∃ token wanted, known token ∧ p.sym.accepts wanted token = true ∧
          trees = [.leaf p.field token]) ∨
        ∃ rule children, p.sym = .rule rule ∧ rule.Derives known children ∧
          trees = rule.product children p.field) := by
  -- There is one step from the form, and none after it.
  have first : ∀ step ∈ Form.next [p], step = ⟨p.sym, p.field, 0, []⟩ := by
    intro step next
    rcases once with times | times <;> rw [Form.next, times] at next <;>
      exact List.mem_singleton.mp next
  -- The form is an index of the reading, so it is made a variable before the induction.
  generalize whole : [p] = form at reads
  induction reads with
  | start => exact .inl ⟨rfl, rfl⟩
  | @token form rest trees step token wanted _ next accepted sort ih =>
    rcases ih whole with ⟨rfl, rfl⟩ | ⟨rfl, _⟩
    · rw [← whole] at next
      obtain rfl := first step next
      exact .inr ⟨rfl, .inl ⟨token, wanted, sort, accepted, rfl⟩⟩
    · cases next
  | @construct form rest within remaining trees children step rule _ next asked mem inner complete
      ih =>
    rcases ih whole with ⟨rfl, rfl⟩ | ⟨rfl, _⟩
    · rw [← whole] at next
      obtain rfl := first step next
      exact .inr ⟨rfl, .inr ⟨rule, children, asked, ⟨within, mem, remaining, inner, complete⟩, rfl⟩⟩
    · cases next

/-- A symbol that a word is accepted for is no construct, and accepts nothing but words. -/
theorem isWord_of_accepts {sym : Sym} (word : sym = .word ∨ ∃ k, sym = .keyword k)
    {wanted : Keyword → Bool} {token : Token} (accepted : sym.accepts wanted token = true) :
    ∃ keyword, token.kind = .word keyword := by
  cases kind : token.kind with
  | word keyword => exact ⟨keyword, rfl⟩
  | mark m => rcases word with rfl | ⟨k, rfl⟩ <;> simp [Sym.accepts, kind] at accepted
  | other cls => rcases word with rfl | ⟨k, rfl⟩ <;> simp [Sym.accepts, kind] at accepted

/-- An identifier is one word. -/
theorem Rule.Derives.identifier {children : List Tree}
    (derives : Rule.identifier.Derives known children) :
    ∃ token keyword, known token ∧ token.kind = .word keyword ∧
      children = [.leaf none token] := by
  obtain ⟨form, mem, rest, reads, complete⟩ := derives
  -- All forms of an identifier are of one part: a word, or one of the keywords that may be names.
  obtain ⟨sym, rfl, word⟩ : ∃ sym, form = [⟨sym, .once, none⟩] ∧
      (sym = .word ∨ ∃ k, sym = .keyword k) := by
    rcases List.mem_cons.mp mem with rfl | mem
    · exact ⟨.word, rfl, .inl rfl⟩
    · obtain ⟨k, _, rfl⟩ := List.mem_map.mp mem
      exact ⟨.keyword k, rfl, .inr ⟨k, rfl⟩⟩
  rcases reads.single (.inl rfl) with
    ⟨rfl, _⟩ | ⟨_, ⟨token, wanted, sort, accepted, rfl⟩ | ⟨rule, _, asked, _⟩⟩
  · cases complete
  · obtain ⟨keyword, kind⟩ := isWord_of_accepts word accepted
    exact ⟨token, keyword, sort, kind, rfl⟩
  · rcases word with rfl | ⟨k, rfl⟩ <;> cases asked

/-- Where the grammar has nothing but an identifier in the name place, what stands there is the text
of one token. -/
theorem Rule.Derives.token_of_name {rule : Rule} {children : List Tree} {place : Option Field}
    (derives : rule.Derives known children) {depth : Nat}
    (fills : rule.fillsWith .name .identifier depth = true) {name : Tree}
    (found : (Tree.node place rule children).childAt? .name = some name) :
    ∃ token keyword, known token ∧ token.kind = .word keyword ∧ name.text = token.text := by
  have mem := List.mem_of_find?_eq_some found
  have placed : name.place = some .name := by simpa using List.find?_some found
  obtain ⟨inner, rfl, identifier⟩ := derives.filled fills mem placed
  obtain ⟨token, keyword, sort, kind, rfl⟩ := identifier.identifier
  refine ⟨token, keyword, sort, kind, ?_⟩
  simp [Tree.text, Tree.tokens, Tree.tokensOf, Tree.spell]

/-- Such a token is a word. -/
theorem Rule.Derives.isWord_name {rule : Rule} {children : List Tree} {place : Option Field}
    (spelled : SpelledWords known) (derives : rule.Derives known children) {depth : Nat}
    (fills : rule.fillsWith .name .identifier depth = true) {name : Tree}
    (found : (Tree.node place rule children).childAt? .name = some name) : IsWord name.text := by
  obtain ⟨token, keyword, sort, kind, text⟩ := derives.token_of_name fills found
  rw [text]
  exact spelled token sort keyword kind

/-! ## Classes -/

/-- A class is named by a word. -/
theorem Rule.Derives.isWord_className {children : List Tree} (spelled : SpelledWords known)
    (derives : Rule.classDeclaration.Derives known children) {place : Option Field}
    {nspace : List Char} {c : ClassModel}
    (found : (Tree.node place .classDeclaration children).classModel? nspace = some c) :
    IsWord c.name.toList := by
  obtain ⟨name, named, rfl⟩ := Option.map_eq_some_iff.mp found
  -- What the grammar has in the name place is looked up in the grammar.
  have fills : Rule.classDeclaration.fillsWith .name .identifier 1 = true := by decide
  have word : IsWord name.text := derives.isWord_name spelled fills named
  rw [String.toList_ofList]
  exact word

mutual

/-- What holds of every class that is declared holds of every class that a walk finds. -/
theorem Walk.forall_visit {P : ClassModel → Prop}
    (declared : ∀ {place children nspace c}, Rule.classDeclaration.Derives known children →
      (Tree.node place .classDeclaration children).classModel? nspace = some c → P c) :
    ∀ (t : Tree) (w : Walk), t.Derived known → (∀ c ∈ w.classes, P c) →
      ∀ c ∈ (w.visit t).classes, P c
  | .leaf .., _, _, hw => hw
  | .missing .., _, _, hw => hw
  | .error .., _, derived, _ => nomatch derived
  | .node place rule children, w, derived, hw => by
    obtain ⟨derives, all⟩ : rule.Derives known children ∧ ∀ t ∈ children, t.Derived known := by
      cases derived with
      | node derives all => exact ⟨derives, all⟩
    have go := fun w => Walk.forall_visitAll declared children w all
    unfold Walk.visit
    split
    · dsimp only [Walk.addUsing]
      split <;> exact hw
    · exact go (w.enter _) hw
    · exact go { w with fileNamespace := _ } hw
    · apply go
      refine List.forall_mem_append.mpr ⟨hw, ?_⟩
      intro c hc
      exact declared derives (Option.mem_toList.mp hc)
    · exact go w hw

/-- The same for trees one after the other. -/
theorem Walk.forall_visitAll {P : ClassModel → Prop}
    (declared : ∀ {place children nspace c}, Rule.classDeclaration.Derives known children →
      (Tree.node place .classDeclaration children).classModel? nspace = some c → P c) :
    ∀ (ts : List Tree) (w : Walk), (∀ t ∈ ts, t.Derived known) → (∀ c ∈ w.classes, P c) →
      ∀ c ∈ (w.visitAll ts).classes, P c
  | [], _, _, hw => hw
  | t :: ts, w, derived, hw => by
    obtain ⟨ht, hts⟩ := List.forall_mem_cons.mp derived
    unfold Walk.visitAll
    exact Walk.forall_visitAll declared ts _ hts (Walk.forall_visit declared t w ht hw)

end

/-- The name of a class of a source text is a word. -/
theorem isWord_of_mem_classes {source : String} {model : SourceModel}
    (parsed : parse source = .ok model) : ∀ c ∈ model.classes, IsWord c.name.toList := by
  obtain ⟨children, derives, rfl⟩ := exists_derives_of_parse parsed
  have spelled : SpelledWords (· ∈ (TokenStream.ofText source.toList).tokens) :=
    fun token mem keyword kind => isWord_of_mem_tokens mem kind
  exact Walk.forall_visit (fun derives found => derives.isWord_className spelled found) _
    Walk.start (derives.derived none) (List.forall_mem_nil _)

end Stubsmith.Syntax
