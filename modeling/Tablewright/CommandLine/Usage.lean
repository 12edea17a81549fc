/-!
# Help for the command line

What is printed for a request for help, and in front of a misuse.
-/

namespace Tablewright.CommandLine

def programName : String := "supabase-api-gen"

/-- How the program is called. -/
def usage : String :=
  "usage: " ++ programName ++ " [-h] [-c CONFIG] [-v] [--no-color]\n" ++
  "                        type_file output_file\n"

/-- The help text. -/
def help : String :=
  usage ++
  "\n" ++
  "Generate a Python data-access class with CRUD methods for every table in a\n" ++
  "Supabase TypeScript type file.\n" ++
  "\n" ++
  "positional arguments:\n" ++
  "  type_file             Path to the TypeScript file declaring the Supabase\n" ++
  "                        Database type.\n" ++
  "  output_file           Path of the Python module to generate. The template is\n" ++
  "                        created next to it.\n" ++
  "\n" ++
  "options:\n" ++
  "  -h, --help            show this help message and exit\n" ++
  "  -c CONFIG, --config CONFIG\n" ++
  "                        Path to an optional YAML configuration file.\n" ++
  "  -v, --verbose         Enable verbose DEBUG logging.\n" ++
  "  --no-color            Disable colored output (useful for CI/CD\n" ++
  "                        environments).\n"

end Tablewright.CommandLine
