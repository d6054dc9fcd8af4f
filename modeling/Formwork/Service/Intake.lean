import Formwork.Definition.Basic

/-!
# The rental application

The form that is used when no other one is given.
-/

namespace Formwork.Definition.Intake

/-- The place in a message where a value is filled in. -/
def placeholder (name : String) : String := "\x7b\x7b" ++ name ++ "\x7d\x7d"

/-- The rule that an item has to be answered. -/
def needed : Check where
  kind := .optional
  rule := "false"
  message := placeholder "label" ++ " is required"

def applicant : View where
  id := "applicant"
  title := some "Applicant"
  items :=
    [ { id := "full_name", kind := .text, label := some "Full name",
        validation :=
          [ needed,
            { kind := .maxLength, rule := "40",
              message :=
                placeholder "label" ++ " must be at most " ++ placeholder "rule" ++
                  " characters" } ] },
      { id := "email", kind := .email, label := some "Email", answerId := some "email_address",
        validation :=
          [ needed,
            { kind := .regexp, rule := "^[^@\\s]+@[^@\\s]+$",
              message := "'" ++ placeholder "value" ++ "' is not an email address" } ] },
      { id := "employment", kind := .radio, label := some "Employment",
        defaultValue := some (.str "employed"),
        options :=
          [ { value := .str "employed", label := "Employed" },
            { value := .str "self_employed", label := "Self-employed" },
            { value := .str "student", label := "Student",
              disabled := some { expr := "user.country == 'DE'" } } ] },
      { id := "employer", kind := .text, label := some "Employer",
        visible :=
          some { expr := "data.employment == 'employed'", dependsOn := ["employment"] },
        validation := [needed] },
      { id := "mobile", kind := .phone, label := some "Mobile",
        props := [("country_code", .str "+31")] } ]

def income : View where
  id := "income"
  title := some "Income"
  items :=
    [ { id := "salary", kind := .number, label := some "Yearly salary" },
      { id := "bonus", kind := .number, label := some "Yearly bonus" },
      { id := "total_income", kind := .number, label := some "Total income",
        readOnly := some { expr := "true" },
        value :=
          some { expr := "data.salary + data.bonus", dependsOn := ["salary", "bonus"] } },
      { id := "bracket", kind := .select, label := some "Income bracket",
        choices := some
          { expr :=
              "data.total_income >= 60000 ? [choice('high', 'High'), choice('top', 'Top')] : " ++
                "[choice('standard', 'Standard')]",
            dependsOn := ["total_income"] } },
      { id := "rent", kind := .money, label := some "Expected rent",
        props := [("currency", .str "EUR")],
        validation :=
          [ { kind := .custom,
              rule := "data.rent == null || data.rent * 3 <= data.total_income / 12",
              message := "Rent may not exceed a third of monthly income",
              dependsOn := ["rent", "total_income"] } ] } ]

def manager : View where
  id := "manager"
  title := some "Manager notes"
  visible := some { expr := "user.role == 'manager'" }
  items := [{ id := "notes", kind := .textarea, label := some "Notes" }]

def review : View where
  id := "review"
  title := some "Review"
  hideFromMenu := true
  items :=
    [ { id := "summary", kind := .paragraph,
        label := some "Check your answers before submitting." },
      { id := "consent", kind := .checkbox, label := some "I accept the terms",
        validation :=
          [ { kind := .custom, rule := "data.consent == true",
              message := "Please accept the terms" } ] },
      { id := "edit_income", kind := .action, label := some "Edit income",
        nextView := some { expr := "'income'" } } ]

def thanks : View where
  id := "thanks"
  title := some "Thanks"
  items := [{ id := "closing", kind := .paragraph, label := some "We will be in touch." }]

/-- The form of a rental application. -/
def definition : Definition where
  id := "rental-intake"
  title := "Rental application"
  version := "1.0.0"
  description := some "Tenant screening intake."
  initialValues := [("bonus", .int 0)]
  views := [applicant, income, manager, review, thanks]

end Formwork.Definition.Intake
