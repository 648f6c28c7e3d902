import NoteForms.Form.Basic
import NoteForms.Number.Typed

/-!
# The example form

A form with one field of many kinds, for a collection that has no form yet.
-/

namespace NoteForms

/-- A field that needs no answer and is always shown. -/
def Field.plain (name label description : String) (input : Input) : Field :=
  ⟨name, if label.isEmpty then none else some label, description, input, none, none⟩

/-- The form that a fresh collection holds. -/
def exampleForm : Form where
  title := "Example form"
  name := "example-form"
  className := none
  fields :=
    [{ Field.plain "name" "Name" "Your full name" (.basic .text none) with required := some true },
      .plain "age" "Age" "How old are you?" (.basic .number none),
      .plain "dateOfBirth" "Date of birth" "" (.basic .date none),
      .plain "likesCats" "Likes cats" "Do you like cats?" (.basic .toggle none),
      { Field.plain "catNames" "Cat names" "" (.tag none) with
        condition := some ⟨"likesCats", .boolean true⟩ },
      .plain "favoriteMeal" "Favorite meal" ""
        (.select (.fixed [⟨"pizza", some "Pizza"⟩, ⟨"pasta", some "Pasta"⟩,
          ⟨"salad", some "Salad"⟩])),
      .plain "hobbies" "Hobbies" "" (.multiselect (.fixed ["reading", "hiking", "gaming"] true)),
      .plain "happiness" "Happiness" "How happy are you today?"
        (.slider (Binary64.ofInt 1) (Binary64.ofInt 10)),
      .plain "notice" "" "" (.documentBlock "Answers are written to the note's frontmatter."),
      { Field.plain "bio" "Bio" "" (.basic .textarea none) with
        condition := some ⟨"age", .above (Binary64.ofInt 17)⟩ }]
  template := some ⟨true, [.frontmatter [] ["bio"], .text "# ", .variable "name" none,
    .text "\n\n", .variable "bio" none, .text "\n"]⟩

end NoteForms
