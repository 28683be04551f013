import WebRouting.Config
import WebRouting.Dispatch
import WebRouting.Unicode.Case

/-! # Demonstration

A small application: greetings and other pages, a view on persons, and a group with an interface in
JSON. -/

namespace WebRouting.Demo

/-! ## Filters -/

/-- Words of small letters and digits with hyphens between them. -/
def slug : Filter where
  pattern := "[a-z0-9]+(?:-[a-z0-9]+)*"
  decode raw := .ok (.string raw)
  encode v := v.text.map Unicode.toLowercase

/-- Truth values. -/
def bool : Filter where
  pattern := "true|false"
  decode := Filter.decodeBool
  encode := Value.text

/-! ## Handlers -/

/-- The start page. -/
def index : Handler := .typed "index" [] fun _ _ => .ok "Welcome to freesia"

/-- A greeting, in the words of the query if it has some. -/
def hello : Handler := .typed "hello" [.string] fun c (name, ()) =>
  .ok (match c.query["greeting"]? with
    | some greeting => greeting ++ ", " ++ name ++ "!"
    | none => "Hello, " ++ name ++ "!")

/-- An age. -/
def age : Handler := .typed "age" [.int64] fun _ (age, ()) =>
  .ok ("You are " ++ (Value.int age).text ++ " years old")

/-- A post. -/
def post : Handler := .typed "post" [.string] fun _ (slug, ()) => .ok ("Post: " ++ slug)

/-- A flag. -/
def flag : Handler := .typed "flag" [.bool] fun _ (on, ()) =>
  .ok (if on then "enabled" else "disabled")

/-- A person. -/
def showPerson : Handler := .typed "show_person" [.string] fun _ (name, ()) =>
  .json (.ofMembers [("name", .string name)])

/-- A person with the body of the request, which is null if it is not JSON. -/
def updatePerson : Handler := .typed "update_person" [.string] fun c (name, ()) =>
  .json (.ofMembers [("name", .string name), ("updated", c.json?.getD .null)])

/-- The end of a person. -/
def deletePerson : Handler := .typed "delete_person" [.string] fun _ (name, ()) =>
  .ok ("Deleted " ++ name)

/-- The status. -/
def status : Handler := .typed "status" [] fun _ _ => .json (.ofMembers [("status", .string "ok")])

/-- An item. -/
def item : Handler := .typed "item" [.int64] fun _ (id, ()) =>
  .json (.ofMembers [("id", .int id.toInt)])

/-- A price. -/
def price : Handler := .typed "price" [.float] fun _ (amount, ()) =>
  .json (.ofMembers [("amount", .float amount)])

/-! ## Application -/

/-- A route for GET without options. -/
def get (rule : String) (handler : Handler) : Item := .route rule ["GET"] handler none

/-- The view on persons. -/
def persons : View :=
  View.empty "Person" |>.on .get showPerson |>.on .put updatePerson |>.on .delete deletePerson

/-- What is set up before the group. -/
def items : List Item :=
  [.filter "slug" slug, .filter "bool" bool, get "/" index, get "/hello/<name>" hello,
   get "/age/<int:age>" age, get "/posts/<slug:slug>" post, get "/flags/<bool:on>" flag,
   .view "/person/<name>" persons none]

/-- The interface in JSON. -/
def api : Group where
  name := "api"
  root := "/api"
  items := [get "/status" status, get "/items/<int:id>" item, get "/prices/<float:amount>" price]

/-- The application. -/
def app (config : RoutingConfig) : Except RouteError App :=
  match App.performAll { checking := config.checking } items with
  | (_, some e) => .error e
  | (a, none) =>
    match a.addGroup api with
    | (_, some e) => .error e
    | (a, none) => .ok a

end WebRouting.Demo
