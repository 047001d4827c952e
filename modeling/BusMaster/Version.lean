/-!
# Version

The version that the library and its command line report.
-/

namespace BusMaster

def version : String := "0.1.0"

end BusMaster
