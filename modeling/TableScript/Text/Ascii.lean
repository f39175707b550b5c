set_option autoImplicit false

namespace TableScript.Text

def lowerAscii (text : String) : String := String.ofList (text.toList.map Char.toLower)

end TableScript.Text
