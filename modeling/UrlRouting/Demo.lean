import UrlRouting.Session.Basic

/-!
# A demonstration

A table `app` with three routes: the pages of companies by host, single items by number, and
actions of controllers.  `transcript` is what a few requests to it show.
-/

namespace UrlRouting.Demo

/-- The name of the table, which is its identifier too. -/
def tableName : Text := ("app" : Text)

/-- The place of the table, which is made first. -/
def table : TableRef := 0

/-- Bindings of names to texts. -/
def texts (entries : List (String × String)) : Option (Bindings Value) :=
  some (.ofList (entries.map fun e => (e.1.toList, .text e.2.toList)))

/-- The page of a company. -/
def companyPage : View where
  parameters := ["area".toList, "controller".toList, "company".toList]
  parts := [.parameter "company".toList, .verbatim ": ".toList, .parameter "area".toList,
    .verbatim "/".toList, .parameter "controller".toList]

/-- The page of an item. -/
def itemPage : View where
  parameters := ["id".toList]
  parts := [.verbatim "item ".toList, .parameter "id".toList]

/-- The page of an action. -/
def actionPage : View where
  parameters := ["controller".toList, "action".toList]
  parts := [.parameter "controller".toList, .verbatim ".".toList, .parameter "action".toList]

/-- The registrations of the demonstration. -/
def registrations : List Registration :=
  [{ description :=
      { urlPattern := some "http://\x7bcompany\x7d.com/\x7barea\x7d/\x7bcontroller\x7d".toList
        defaults := texts [("company", "acme"), ("controller", "Home")]
        constraints := texts [("company", "acme|contoso")]
        dataTokens := texts [("namespace", "companies")]
        handler := .view companyPage }
     name := some "company".toList
     unexpected := [] },
   { description :=
      { urlPattern := some "\x7bid\x7d".toList
        defaults := none
        constraints := texts [("id", "\\d+")]
        dataTokens := none
        handler := .view itemPage }
     name := some "item".toList
     unexpected := [] },
   { description :=
      { urlPattern := some "\x7bcontroller\x7d/\x7baction\x7d".toList
        defaults := texts [("controller", "Home"), ("action", "Index")]
        constraints := none
        dataTokens := none
        handler := .view actionPage }
     name := some "default".toList
     unexpected := [] }]

/-- The steps that set the table up. -/
def setup : List Step :=
  .makeTable tableName tableName true true :: registrations.map (.decorate tableName ·)

/-- The session with the table set up. -/
def session : Session := (Session.empty.run setup).2

/-- What setting the table up writes to the log. -/
def setupLog : Text := (Session.empty.run setup).1.flatMap (·.2)

/-- Answers steps after the setup, whose records come in front of those of the first step. -/
def run (steps : List Step) : List (Except StepFault Answer × Text) :=
  match (session.run steps).1 with
  | [] => []
  | (result, log) :: rest => (result, setupLog ++ log) :: rest

/-- What a step of the demonstration prints, if it answers with a text. -/
def printed : Except StepFault Answer → Text
  | .ok (.rendered t) => t ++ ['\n']
  | .ok (.generated (some (_, path))) => path.text ++ ['\n']
  | _ => []

/-- The requests of the demonstration. -/
def requests : List Step :=
  [.dispatch table "http://contoso.com/Sales/Orders".toList,
   .dispatch table "http://localhost/42".toList,
   .dispatch table "http://localhost/Products/List".toList,
   .generate (.table tableName) (some "default".toList)
    ⟨texts [("action", "About")], none, none⟩]

/-- All that the demonstration writes. -/
def transcript : Text :=
  setupLog ++ (session.run requests).1.flatMap fun (result, log) => log ++ printed result

end UrlRouting.Demo
