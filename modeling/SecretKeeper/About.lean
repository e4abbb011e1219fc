/-!
Name and version of the application.
-/
namespace SecretKeeper

def applicationName : String := "secretfs"

def version : String := "0.1.0"

end SecretKeeper
